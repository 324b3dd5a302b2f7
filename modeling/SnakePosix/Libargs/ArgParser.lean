import SnakePosix.Libargs.HashMap
import SnakePosix.Server.ServerInit

/-! The argument parser with its options in a vector and their names in the hash map,
as `args.c` keeps them; a pointer to an option is its place in the vector. The options
are those of `Libargs.Args`, and memory does not run out. -/
namespace SnakePosix.Libargs

inductive ArgsStop where
  | exit (exit : ArgsExit)
  /-- `exit_with_error` with an option's name in memory that is freed by then. All that is
  known of the message is what stands before the name and after it. -/
  | exitFreed (before after : CString)
  /-- A call of the map does not return, or a pointer leads nowhere. -/
  | stuck

structure ArgParser where
  optionVec : List ArgOption
  optionMap : Map Nat
  positionalArgs : List CString
  helptext : Option CString
  version : Option CString

def exitWithError (message : CString) : Except ArgsStop α := (SnakePosix.exitWithError message).mapError .exit

def apNewParser : ArgParser where
  optionVec := []
  optionMap := mapNew
  positionalArgs := []
  helptext := none
  version := none

def apSetHelptext (parser : ArgParser) (helptext : CString) : ArgParser :=
  { parser with helptext := some helptext }

def apRegisterOption (parser : ArgParser) (name : CString) (option : ArgOption) : Except ArgsStop ArgParser :=
  match mapSetSplitkey parser.optionMap name parser.optionVec.length true fun _ => ⟨true, true⟩ with
  | none => .error .stuck
  | some (_, optionMap) => .ok { parser with optionVec := parser.optionVec ++ [option], optionMap }

def apAddStrOpt (parser : ArgParser) (name fallback : CString) : Except ArgsStop ArgParser :=
  apRegisterOption parser name (.str [] fallback)

def apAddIntOpt (parser : ArgParser) (name : CString) (fallback : Int) : Except ArgsStop ArgParser :=
  apRegisterOption parser name (.int [] fallback)

/-- `map_get` on the option map. -/
def ArgParser.find (parser : ArgParser) (name : CString) : Except ArgsStop (Option Nat) :=
  match mapGet parser.optionMap name with
  | none => .error .stuck
  | some found => .ok found

def ArgParser.deref (parser : ArgParser) (option : Nat) : Except ArgsStop ArgOption :=
  match parser.optionVec[option]? with
  | none => .error .stuck
  | some option => .ok option

/-- `option_try_set` through a pointer. -/
def ArgParser.trySet (parser : ArgParser) (option : Nat) (arg : CString) : Except ArgsStop ArgParser := do
  let before ← parser.deref option
  let after ← (optionTrySet before arg).mapError .exit
  .ok { parser with optionVec := parser.optionVec.set option after }

def apGetOpt (parser : ArgParser) (name : CString) : Except ArgsStop ArgOption := do
  match ← parser.find name with
  | some option => parser.deref option
  | none => exitWithError ("'".toList ++ name ++ "' is not a registered flag or option name".toList)

def apFound (parser : ArgParser) (name : CString) : Except ArgsStop Bool := do
  let option ← apGetOpt parser name
  .ok (option.count > 0)

def apGetStrValue (parser : ArgParser) (name : CString) : Except ArgsStop CString := do
  match ← apGetOpt parser name with
  | .str values fallback => .ok (values.getLastD fallback)
  | .int .. => .ok []

def apGetIntValue (parser : ArgParser) (name : CString) : Except ArgsStop Int := do
  match ← apGetOpt parser name with
  | .int values fallback => .ok (values.getLastD fallback)
  | .str .. => .ok 0

/-! ## Parsing -/

/-- The copy of the argument that the name stands in is freed before a message. -/
def apHandleEqualsOpt (parser : ArgParser) (dashes arg : CString) : Except ArgsStop ArgParser := do
  let name := arg.takeWhile (· ≠ '=')
  let value := (arg.dropWhile (· ≠ '=')).drop 1
  match ← parser.find name with
  | none => .error (.exitFreed dashes " is not a recognised option name".toList)
  | some option =>
    if value = [] then .error (.exitFreed ("missing argument for ".toList ++ dashes) [])
    else parser.trySet option value

def apHandleLongOpt (parser : ArgParser) (arg : CString) (stream : List CString) :
    Except ArgsStop (ArgParser × List CString) := do
  match ← parser.find arg, stream with
  | some option, next :: stream => do
    let parser ← parser.trySet option next
    .ok (parser, stream)
  | some _, [] => exitWithError ("missing argument for --".toList ++ arg)
  | none, _ =>
    if arg = "help".toList ∧ parser.helptext.isSome then
      .error (.exit { code := 0, message := parser.helptext.getD [] })
    else if arg = "version".toList ∧ parser.version.isSome then
      .error (.exit { code := 0, message := parser.version.getD [] })
    else exitWithError ("--".toList ++ arg ++ " is not a recognised flag or option name".toList)

/-- The loop over the letters of `arg` that are left. -/
def apHandleShortOpt (arg : CString) : CString → ArgParser → List CString →
    Except ArgsStop (ArgParser × List CString)
  | [], parser, stream => .ok (parser, stream)
  | letter :: letters, parser, stream => do
    match ← parser.find [letter], stream with
    | some option, next :: stream => do
      let parser ← parser.trySet option next
      apHandleShortOpt arg letters parser stream
    | some _, [] =>
      if arg.length > 1 then
        exitWithError ("missing argument for '".toList ++ [letter] ++ "' in -".toList ++ arg)
      else exitWithError ("missing argument for -".toList ++ arg)
    | none, _ =>
      if letter = 'h' ∧ parser.helptext.isSome then
        .error (.exit { code := 0, message := parser.helptext.getD [] })
      else if letter = 'v' ∧ parser.version.isSome then
        .error (.exit { code := 0, message := parser.version.getD [] })
      else if arg.length > 1 then
        exitWithError ("'".toList ++ [letter] ++ "' in -".toList ++ arg ++
          " is not a recognised flag or option name".toList)
      else exitWithError ("-".toList ++ arg ++ " is not a recognised flag or option name".toList)

/-- One argument and what it takes of the stream. -/
def apHandleArg (parser : ArgParser) (arg : CString) (stream : List CString) :
    Except ArgsStop (ArgParser × List CString) :=
  match arg with
  | ['-', '-'] => .ok ({ parser with positionalArgs := parser.positionalArgs ++ stream }, [])
  | '-' :: '-' :: name =>
    if '=' ∈ name then do
      let parser ← apHandleEqualsOpt parser "--".toList name
      .ok (parser, stream)
    else apHandleLongOpt parser name stream
  | '-' :: name =>
    if name = [] ∨ name.head?.any isDigit then
      .ok ({ parser with positionalArgs := parser.positionalArgs ++ [arg] }, stream)
    else if '=' ∈ name then do
      let parser ← apHandleEqualsOpt parser "-".toList name
      .ok (parser, stream)
    else apHandleShortOpt name name parser stream
  | _ => .ok ({ parser with positionalArgs := parser.positionalArgs ++ [arg] }, stream)

/-- Every turn of the loop takes at least one argument. -/
def apParseStream : Nat → ArgParser → List CString → Except ArgsStop ArgParser
  | fuel + 1, parser, arg :: stream => do
    let (parser, stream) ← apHandleArg parser arg stream
    apParseStream fuel parser stream
  | _, parser, _ => .ok parser

def apParse (parser : ArgParser) (argv : List CString) : Except ArgsStop ArgParser :=
  apParseStream argv.tail.length parser argv.tail

/-! ## `argument_parser.c` -/

def argumentParserGetStrCopy (parser : ArgParser) (key : CString) : Except ArgsStop (Option CString) := do
  if ← apFound parser key then
    let string ← apGetStrValue parser key
    .ok (some string)
  else .ok none

/-- The parser before it has seen the arguments. -/
def serverArgParser : Except ArgsStop ArgParser := do
  let parser := apSetHelptext apNewParser "Hosts a snake game.".toList
  let parser ← apAddIntOpt parser "parent a".toList settingNoParent
  let parser ← apAddStrOpt parser "name n".toList []
  let parser ← apAddStrOpt parser "map m".toList []
  let parser ← apAddIntOpt parser "width w".toList 0
  let parser ← apAddIntOpt parser "height h".toList 0
  apAddIntOpt parser "port p".toList 0

def argumentParserParse (argv : List CString) : Except ArgsStop (Except CString GameSettings) := do
  let parser ← apParse (← serverArgParser) argv
  let name ← apFound parser "name".toList
  let port ← apFound parser "port".toList
  if ¬ name ∧ ¬ port then .ok (.error "IPC to use is required".toList)
  else
    let map ← apFound parser "map".toList
    let width ← apFound parser "width".toList
    let height ← apFound parser "height".toList
    if ¬ map ∧ (¬ width ∨ ¬ height) then .ok (.error "Map settings are required".toList)
    else
      let roomName ← argumentParserGetStrCopy parser "name".toList
      let mapPath ← argumentParserGetStrCopy parser "map".toList
      let width ← apGetIntValue parser "width".toList
      let height ← apGetIntValue parser "height".toList
      let parent ← apGetIntValue parser "parent".toList
      let port ← apGetIntValue parser "port".toList
      .ok (.ok
        { roomName
          mapPath
          width := wrapInt 32 width
          height := wrapInt 32 height
          parent
          port := wrapInt 16 port })

end SnakePosix.Libargs
