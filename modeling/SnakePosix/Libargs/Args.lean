import Mathlib.Algebra.Group.Int.Defs
import Mathlib.Algebra.Group.Nat.Defs

/-! The part of the argument parser `args.c` that the server's options go through.
Flags, floating-point and greedy options and commands are never registered and
are left out, and so is memory that runs out. A C string is a list of characters
without its terminator. -/
namespace SnakePosix

abbrev CString := List Char

/-! ## Numbers in strings, after `ctype.h` and `stdlib.h` -/

/-- `isspace` -/
def isSpace (c : Char) : Bool := c = ' ' ∨ 9 ≤ c.toNat ∧ c.toNat ≤ 13

/-- `isdigit` -/
def isDigit (c : Char) : Bool := '0' ≤ c ∧ c ≤ '9'

def skipSpaces (string : CString) : CString := string.dropWhile isSpace

/-- The value of a digit or a letter as a digit. -/
def digitValue (c : Char) : Option Nat :=
  if isDigit c then some (c.toNat - '0'.toNat)
  else if 'a' ≤ c ∧ c ≤ 'z' then some (c.toNat - 'a'.toNat + 10)
  else if 'A' ≤ c ∧ c ≤ 'Z' then some (c.toNat - 'A'.toNat + 10)
  else none

def isDigitOf (base : Nat) (c : Char) : Bool := (digitValue c).any (· < base)

/-- The digits a string begins with, and the rest. -/
def spanDigits (base : Nat) (string : CString) : CString × CString := string.span (isDigitOf base)

def digitsValue (base : Nat) (digits : CString) : Nat :=
  digits.foldl (fun value c => value * base + (digitValue c).getD 0) 0

/-- An optional sign, and whether it is a minus. -/
def spanSign (string : CString) : Bool × CString :=
  match string with
  | '-' :: rest => (true, rest)
  | '+' :: rest => (false, rest)
  | rest => (false, rest)

/-- The base that `strtol` finds for a string without sign, and its digits. -/
def findBase (string : CString) : Nat × CString :=
  match string with
  | '0' :: x :: d :: rest =>
    if (x = 'x' ∨ x = 'X') ∧ isDigitOf 16 d then (16, d :: rest) else (8, string)
  | '0' :: _ => (8, string)
  | _ => (10, string)

def longMax : Int := 2 ^ 63 - 1
def longMin : Int := -2 ^ 63

structure StrtolResult where
  value : Int
  /-- Where `endptr` points. -/
  rest : CString
  /-- `errno == ERANGE` -/
  outOfRange : Bool

/-- `strtol(string, &endptr, 0)` -/
def strtol (string : CString) : StrtolResult :=
  let (negative, unsigned) := spanSign (skipSpaces string)
  let (base, unsigned) := findBase unsigned
  let (digits, rest) := spanDigits base unsigned
  let value : Int := if negative then -digitsValue base digits else digitsValue base digits
  if digits = [] then { value := 0, rest := string, outOfRange := false }
  else if value > longMax then { value := longMax, rest, outOfRange := true }
  else if value < longMin then { value := longMin, rest, outOfRange := true }
  else { value, rest, outOfRange := false }

/-! ## Options -/

/-- The process exits: its code and its last message. -/
structure ArgsExit where
  code : Nat
  message : CString

/-- `exit_with_error` -/
def exitWithError (message : CString) : Except ArgsExit α :=
  .error { code := 1, message := "error: ".toList ++ message }

def intMax : Int := 2 ^ 31 - 1
def intMin : Int := -2 ^ 31

def tryStrToInt (string : CString) : Except ArgsExit Int :=
  let result := strtol string
  if result.outOfRange ∨ result.value > intMax ∨ result.value < intMin then
    exitWithError ("'".toList ++ string ++ "' is out of range".toList)
  else if result.rest ≠ [] then
    exitWithError ("cannot parse '".toList ++ string ++ "' as an integer".toList)
  else .ok result.value

/-- The values found so far and the fallback. -/
inductive ArgOption where
  | str (values : List CString) (fallback : CString)
  | int (values : List Int) (fallback : Int)

def ArgOption.count : ArgOption → Nat
  | .str values _ => values.length
  | .int values _ => values.length

def optionTrySet (option : ArgOption) (arg : CString) : Except ArgsExit ArgOption :=
  match option with
  | .str values fallback => .ok (.str (values ++ [arg]) fallback)
  | .int values fallback => do
    let value ← tryStrToInt arg
    .ok (.int (values ++ [value]) fallback)

/-! ## The parser -/

/-- Every option under its names. -/
structure ArgParser where
  options : List (List CString × ArgOption)
  positionalArgs : List CString
  helptext : Option CString
  version : Option CString

def apNewParser : ArgParser where
  options := []
  positionalArgs := []
  helptext := none
  version := none

def apSetHelptext (parser : ArgParser) (helptext : CString) : ArgParser :=
  { parser with helptext := some helptext }

/-- The words of an option's key are its names. -/
def apRegisterOption (parser : ArgParser) (name : CString) (option : ArgOption) : ArgParser :=
  { parser with options := parser.options ++ [((name.splitOnP (· = ' ')).filter (· ≠ []), option)] }

def apAddStrOpt (parser : ArgParser) (name fallback : CString) : ArgParser :=
  apRegisterOption parser name (.str [] fallback)

def apAddIntOpt (parser : ArgParser) (name : CString) (fallback : Int) : ArgParser :=
  apRegisterOption parser name (.int [] fallback)

/-- `map_get` on the option map. -/
def ArgParser.find? (parser : ArgParser) (name : CString) : Option ArgOption :=
  (parser.options.find? (name ∈ ·.1)).map (·.2)

def ArgParser.update (parser : ArgParser) (name : CString) (option : ArgOption) : ArgParser :=
  { parser with
    options := parser.options.map fun entry => if name ∈ entry.1 then (entry.1, option) else entry }

def apGetOpt (parser : ArgParser) (name : CString) : Except ArgsExit ArgOption :=
  match parser.find? name with
  | some option => .ok option
  | none => exitWithError ("'".toList ++ name ++ "' is not a registered flag or option name".toList)

def apFound (parser : ArgParser) (name : CString) : Except ArgsExit Bool := do
  let option ← apGetOpt parser name
  .ok (option.count > 0)

/-- The last value found, or the fallback. An option of the other kind is never
asked for. -/
def apGetStrValue (parser : ArgParser) (name : CString) : Except ArgsExit CString := do
  match ← apGetOpt parser name with
  | .str values fallback => .ok (values.getLastD fallback)
  | .int .. => .ok []

def apGetIntValue (parser : ArgParser) (name : CString) : Except ArgsExit Int := do
  match ← apGetOpt parser name with
  | .int values fallback => .ok (values.getLastD fallback)
  | .str .. => .ok 0

/-! ## Parsing -/

def apHandleEqualsOpt (parser : ArgParser) (dashes arg : CString) : Except ArgsExit ArgParser :=
  let name := arg.takeWhile (· ≠ '=')
  let value := (arg.dropWhile (· ≠ '=')).drop 1
  match parser.find? name with
  | none => exitWithError (dashes ++ name ++ " is not a recognised option name".toList)
  | some option =>
    if value = [] then exitWithError ("missing argument for ".toList ++ dashes ++ name)
    else do
      let option ← optionTrySet option value
      .ok (parser.update name option)

def apHandleLongOpt (parser : ArgParser) (arg : CString) (stream : List CString) :
    Except ArgsExit (ArgParser × List CString) :=
  match parser.find? arg, stream with
  | some option, next :: stream => do
    let option ← optionTrySet option next
    .ok (parser.update arg option, stream)
  | some _, [] => exitWithError ("missing argument for --".toList ++ arg)
  | none, _ =>
    if arg = "help".toList ∧ parser.helptext.isSome then .error { code := 0, message := parser.helptext.getD [] }
    else if arg = "version".toList ∧ parser.version.isSome then
      .error { code := 0, message := parser.version.getD [] }
    else exitWithError ("--".toList ++ arg ++ " is not a recognised flag or option name".toList)

/-- The loop over the letters of `arg` that are left; every option found takes the
next argument. -/
def apHandleShortOpt (arg : CString) : CString → ArgParser → List CString →
    Except ArgsExit (ArgParser × List CString)
  | [], parser, stream => .ok (parser, stream)
  | letter :: letters, parser, stream =>
    match parser.find? [letter], stream with
    | some option, next :: stream => do
      let option ← optionTrySet option next
      apHandleShortOpt arg letters (parser.update [letter] option) stream
    | some _, [] =>
      if arg.length > 1 then
        exitWithError ("missing argument for '".toList ++ [letter] ++ "' in -".toList ++ arg)
      else exitWithError ("missing argument for -".toList ++ arg)
    | none, _ =>
      if letter = 'h' ∧ parser.helptext.isSome then .error { code := 0, message := parser.helptext.getD [] }
      else if letter = 'v' ∧ parser.version.isSome then .error { code := 0, message := parser.version.getD [] }
      else if arg.length > 1 then
        exitWithError ("'".toList ++ [letter] ++ "' in -".toList ++ arg ++
          " is not a recognised flag or option name".toList)
      else exitWithError ("-".toList ++ arg ++ " is not a recognised flag or option name".toList)

/-- One argument and what it takes of the stream. -/
def apHandleArg (parser : ArgParser) (arg : CString) (stream : List CString) :
    Except ArgsExit (ArgParser × List CString) :=
  match arg with
  | ['-', '-'] => .ok ({ parser with positionalArgs := parser.positionalArgs ++ stream }, [])
  | '-' :: '-' :: name =>
    if '=' ∈ name then do
      let parser ← apHandleEqualsOpt parser "--".toList name
      .ok (parser, stream)
    else apHandleLongOpt parser name stream
  | '-' :: name =>
    if name = [] ∨ name.head?.any isDigit then
      .ok ({ parser with positionalArgs := parser.positionalArgs ++ [arg] }, stream)
    else if '=' ∈ name then do
      let parser ← apHandleEqualsOpt parser "-".toList name
      .ok (parser, stream)
    else apHandleShortOpt name name parser stream
  | _ => .ok ({ parser with positionalArgs := parser.positionalArgs ++ [arg] }, stream)

/-- Every turn of the loop takes at least one argument, so their number is enough
fuel. -/
def apParseStream : Nat → ArgParser → List CString → Except ArgsExit ArgParser
  | fuel + 1, parser, arg :: stream => do
    let (parser, stream) ← apHandleArg parser arg stream
    apParseStream fuel parser stream
  | _, parser, _ => .ok parser

/-- The first argument is the program's name. -/
def apParse (parser : ArgParser) (argv : List CString) : Except ArgsExit ArgParser :=
  apParseStream argv.tail.length parser argv.tail

end SnakePosix
