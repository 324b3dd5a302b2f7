import SnakePosix.Libargs.Args

/-! The prompts of `terminal.c`. What they draw meanwhile is left out. -/
namespace SnakePosix

/-! ## `termbox2.h` -/

/-- The fields of a `struct tb_event` that a prompt looks at. -/
structure TbEvent where
  type : Nat
  key : Nat
  ch : Nat
  deriving DecidableEq, Repr

def tbEventKey : Nat := 1

def tbKeyBackspace : Nat := 0x08
def tbKeyEnter : Nat := 0x0d
def tbKeyEsc : Nat := 0x1b
def tbKeyBackspace2 : Nat := 0x7f

/-! ## Buffers -/

/-- A character was written behind the end of the buffer. -/
structure BufferOverflow where
  index : Nat
  deriving DecidableEq, Repr

/-- `buffer[index] = character` -/
def writeBuffer (buffer : CString) (index : Nat) (character : Char) : Except BufferOverflow CString :=
  if index < buffer.length then .ok (buffer.set index character) else .error { index }

/-- The string in a buffer ends before its first null. -/
def bufferString (buffer : CString) : CString := buffer.takeWhile (· ≠ '\x00')

/-- `atoi`, which is `strtol` in base ten, truncated to `int`. -/
def atoi (string : CString) : Int :=
  let (negative, unsigned) := spanSign (skipSpaces string)
  let (digits, _) := spanDigits 10 unsigned
  let value : Int := if negative then -digitsValue 10 digits else digitsValue 10 digits
  Int.bmod (max longMin (min value longMax)) (2 ^ 32)

/-! ## `terminal.c` -/

/-- The characters a prompt takes. The underscore is outside the alternatives that
`read_letters` guards. -/
def takesCharacter (readLetters : Bool) (ch : Nat) : Bool :=
  ('0'.toNat ≤ ch ∧ ch ≤ '9'.toNat) ∨
    (readLetters ∧ (('a'.toNat ≤ ch ∧ ch ≤ 'z'.toNat) ∨ ('A'.toNat ≤ ch ∧ ch ≤ 'Z'.toNat) ∨
      ch = '.'.toNat ∨ ch = '-'.toNat ∨ ch = '.'.toNat) ∨ ch = '_'.toNat)

structure Prompt where
  buffer : CString
  index : Nat

/-- A key that neither enters the text nor cancels the prompt. -/
def Prompt.type (self : Prompt) (readLetters : Bool) (event : TbEvent) : Except BufferOverflow Prompt :=
  if event.key = tbKeyBackspace ∨ event.key = tbKeyBackspace2 then
    .ok (if self.index > 0 then { self with index := self.index - 1 } else self)
  else if takesCharacter readLetters event.ch then do
    let buffer ← writeBuffer self.buffer self.index (Char.ofNat event.ch)
    .ok { buffer, index := self.index + 1 }
  else .ok self

inductive Reading where
  /-- There has been no event yet that ends the prompt. -/
  | waiting
  | cancelled (buffer : CString)
  | entered (buffer : CString)
  deriving DecidableEq, Repr

/-- The loop of `terminal_read` and the null behind the text. -/
def Prompt.read (readLetters : Bool) : List TbEvent → Prompt → Except BufferOverflow Reading
  | [], _ => .ok .waiting
  | event :: events, self =>
    if event.type ≠ tbEventKey then self.read readLetters events
    else if event.key = tbKeyEnter then do
      let buffer ← writeBuffer self.buffer self.index '\x00'
      .ok (.entered buffer)
    else if event.key = tbKeyEsc then .ok (.cancelled self.buffer)
    else do
      let self ← self.type readLetters event
      self.read readLetters events

def terminalRead (buffer : CString) (readLetters : Bool) (events : List TbEvent) : Except BufferOverflow Reading :=
  Prompt.read readLetters events { buffer, index := 0 }

inductive TerminalReadResult where
  | cancelled
  | empty
  | invalid
  | success
  deriving DecidableEq, Repr

/-- `char buffer[256]`, with what its memory held. -/
def localBuffer (memory : Nat → Char) : CString := (List.range 256).map memory

/-- Also `terminal_read_hostname`: the text is in the caller's buffer. -/
def terminalReadString (buffer : CString) (events : List TbEvent) :
    Except BufferOverflow (Option (TerminalReadResult × CString)) := do
  match ← terminalRead buffer true events with
  | .waiting => .ok none
  | .cancelled buffer => .ok (some (.cancelled, buffer))
  | .entered buffer => .ok (some (.success, buffer))

/-- The result and the coordinate, which keeps its value if nothing is read. -/
def terminalReadCoordinate (memory : Nat → Char) (outCoordinate : Nat) (events : List TbEvent) :
    Except BufferOverflow (Option (TerminalReadResult × Nat)) := do
  match ← terminalRead (localBuffer memory) false events with
  | .waiting => .ok none
  | .cancelled _ => .ok (some (.cancelled, outCoordinate))
  | .entered buffer => .ok (some (.success, (atoi (bufferString buffer) % 2 ^ 32).toNat))

/-- The result and the port, which keeps its value unless the result is a success. -/
def terminalReadPort (memory : Nat → Char) (outPort : Nat) (events : List TbEvent) :
    Except BufferOverflow (Option (TerminalReadResult × Nat)) := do
  match ← terminalRead (localBuffer memory) false events with
  | .waiting => .ok none
  | .cancelled _ => .ok (some (.cancelled, outPort))
  | .entered buffer =>
    if buffer.head? = some '\x00' then .ok (some (.empty, outPort))
    else
      let port := atoi (bufferString buffer)
      if port < 0 ∨ port > 65535 then .ok (some (.invalid, outPort))
      else .ok (some (.success, (port % 2 ^ 16).toNat))

end SnakePosix
