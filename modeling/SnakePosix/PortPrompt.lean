import Mathlib.Data.List.Infix
import Mathlib.Data.List.TakeWhile
import Mathlib.Data.Nat.Digits.Defs
import SnakePosix.Client.Terminal
import SnakePosix.DigitStrings
import SnakePosix.Foundation.GuardedRuns

/-! What a prompt makes of the keys. The buffer holds the text typed so far as
long as the text fits, and nothing checks that it does; a port is what `atoi`
makes of the text, which may have underscores in it. -/
namespace SnakePosix.PortPrompt
open GuardedRuns Marks DigitStrings

variable {readLetters : Bool} {event : TbEvent} {events : List TbEvent} {text : CString} {prompt : Prompt}

/-! ## The text -/

/-- The event ends no prompt. -/
def Typing (event : TbEvent) : Prop := event.type = tbEventKey → event.key ≠ tbKeyEnter ∧ event.key ≠ tbKeyEsc

/-- The text after an event. -/
def typeKey (readLetters : Bool) (text : CString) (event : TbEvent) : CString :=
  if event.type ≠ tbEventKey then text
  else if event.key = tbKeyBackspace ∨ event.key = tbKeyBackspace2 then text.dropLast
  else if takesCharacter readLetters event.ch then text ++ [Char.ofNat event.ch]
  else text

/-- The accepted characters after the backspaces. -/
def typed (readLetters : Bool) (events : List TbEvent) : CString := events.foldl (typeKey readLetters) []

/-- The buffer's first characters are the text. -/
structure Shows (size : Nat) (text : CString) (prompt : Prompt) : Prop where
  size : prompt.buffer.length = size
  index : prompt.index = text.length
  text : prompt.buffer.take text.length = text

variable {size : Nat}

theorem start_shows (buffer : CString) : Shows buffer.length [] { buffer, index := 0 } := ⟨rfl, rfl, rfl⟩

/-- What the loop does with an event that does not end it. -/
def keyStep (readLetters : Bool) (prompt : Prompt) (event : TbEvent) : Except BufferOverflow Prompt :=
  if event.type ≠ tbEventKey then .ok prompt else prompt.type readLetters event

theorem read_typing (typing : Typing event) (prompt : Prompt) (events : List TbEvent) :
    prompt.read readLetters (event :: events) = keyStep readLetters prompt event >>= fun next =>
      next.read readLetters events := by
  unfold keyStep
  rw [Prompt.read]
  split
  · rfl
  · rename_i key
    obtain ⟨notEnter, notEsc⟩ := typing (Classical.not_not.mp key)
    rw [if_neg notEnter, if_neg notEsc]

theorem shows_fits (shows : Shows size text prompt) : text.length ≤ size := by
  have taken := congrArg List.length shows.text
  rw [List.length_take, shows.size] at taken
  omega

private theorem erase_shows (shows : Shows size text prompt) :
    Shows size text.dropLast (if prompt.index > 0 then { prompt with index := prompt.index - 1 } else prompt) := by
  have taken : prompt.buffer.take text.dropLast.length = text.dropLast := by
    have shorter := congrArg (List.take (text.length - 1)) shows.text
    rw [List.take_take, Nat.min_eq_left (Nat.sub_le _ _)] at shorter
    rw [List.length_dropLast, List.dropLast_eq_take, shorter]
  have index := shows.index
  split
  · exact ⟨shows.size, by rw [List.length_dropLast, ← index], taken⟩
  · exact ⟨shows.size, by rw [List.length_dropLast]; omega, taken⟩

/-- Behind the text there is room for a character as long as the text is shorter
than the buffer. -/
theorem write_shows (shows : Shows size text prompt) (room : text.length < size) (character : Char) :
    ∃ buffer, writeBuffer prompt.buffer prompt.index character = .ok buffer ∧ buffer.length = size ∧
      buffer.take (text.length + 1) = text ++ [character] := by
  unfold writeBuffer
  rw [shows.index, shows.size, if_pos room]
  refine ⟨_, rfl, List.length_set.trans shows.size, ?_⟩
  rw [List.take_add_one, List.take_set_of_le (Nat.le_refl _), shows.text, List.getElem?_set_self (shows.size ▸ room)]
  rfl

theorem write_overflows (shows : Shows size text prompt) (full : ¬ text.length < size) (character : Char) :
    writeBuffer prompt.buffer prompt.index character = .error { index := text.length } := by
  unfold writeBuffer
  rw [shows.index, shows.size, if_neg full]

theorem keyStep_shows (shows : Shows size text prompt) (event : TbEvent)
    (fits : (typeKey readLetters text event).length ≤ size) :
    ∃ next, keyStep readLetters prompt event = .ok next ∧ Shows size (typeKey readLetters text event) next := by
  unfold typeKey at fits ⊢
  unfold keyStep Prompt.type
  split
  · exact ⟨prompt, rfl, shows⟩
  · rename_i key
    rw [if_neg key] at fits
    split
    · exact ⟨_, rfl, erase_shows shows⟩
    · rename_i notBackspace
      rw [if_neg notBackspace] at fits
      split
      · rename_i taken
        rw [if_pos taken, List.length_append] at fits
        obtain ⟨buffer, written, same, text⟩ := write_shows shows fits (Char.ofNat event.ch)
        rw [written]
        exact ⟨_, rfl, same, by rw [shows.index, List.length_append, List.length_singleton],
          by rwa [List.length_append, List.length_singleton]⟩
      · exact ⟨prompt, rfl, shows⟩

theorem keyStep_overflows (shows : Shows size text prompt) (event : TbEvent)
    (large : ¬ (typeKey readLetters text event).length ≤ size) :
    keyStep readLetters prompt event = .error { index := size } := by
  have fits := shows_fits shows
  unfold typeKey at large
  unfold keyStep Prompt.type
  split at large
  · exact absurd fits large
  · rename_i key
    rw [if_neg key]
    split at large
    · rw [List.length_dropLast] at large
      exact absurd (Nat.le_trans (Nat.sub_le _ _) fits) large
    · rename_i notBackspace
      rw [if_neg notBackspace]
      split at large
      · rename_i taken
        rw [List.length_append, List.length_singleton] at large
        obtain full : text.length = size := by omega
        rw [if_pos taken, write_overflows shows (by omega), full]
        rfl
      · exact absurd fits large

/-! ## Reading -/

/-- No text on the way is longer than that. -/
def Bounded (size : Nat) (readLetters : Bool) (text : CString) (events : List TbEvent) : Prop :=
  ∀ earlier ∈ events.inits, (earlier.foldl (typeKey readLetters) text).length ≤ size

instance (size : Nat) (readLetters : Bool) (text : CString) : DecidablePred (Bounded size readLetters text) :=
  fun events => inferInstanceAs (Decidable (∀ earlier ∈ events.inits, _))

theorem bounded_nil : Bounded size readLetters text [] ↔ text.length ≤ size := by
  simp [Bounded]

theorem bounded_cons : Bounded size readLetters text (event :: events) ↔
    text.length ≤ size ∧ Bounded size readLetters (typeKey readLetters text event) events := by
  simp [Bounded]

theorem bounded_start (bounded : Bounded size readLetters text events) : text.length ≤ size :=
  bounded [] ((List.mem_inits _ _).mpr List.nil_prefix)

theorem bounded_end (bounded : Bounded size readLetters text events) :
    (events.foldl (typeKey readLetters) text).length ≤ size :=
  bounded events ((List.mem_inits _ _).mpr (List.prefix_refl events))

/-- While the keys are typed the buffer shows the text. -/
theorem read_shows (keys : List TbEvent) (typing : ∀ event ∈ keys, Typing event) (shows : Shows size text prompt)
    (bounded : Bounded size readLetters text keys) (rest : List TbEvent) :
    ∃ next, prompt.read readLetters (keys ++ rest) = next.read readLetters rest ∧
      Shows size (keys.foldl (typeKey readLetters) text) next := by
  induction keys generalizing text prompt with
  | nil => exact ⟨prompt, rfl, shows⟩
  | cons event keys ih =>
    obtain ⟨-, bounded⟩ := bounded_cons.mp bounded
    obtain ⟨next, stepped, shown⟩ := keyStep_shows shows event (bounded_start bounded)
    obtain ⟨final, reads, done⟩ := ih (fun event member => typing event (List.mem_cons_of_mem _ member)) shown bounded
    refine ⟨final, ?_, done⟩
    rw [List.cons_append, read_typing (typing event List.mem_cons_self), stepped]
    exact reads

theorem read_overflows (keys : List TbEvent) (typing : ∀ event ∈ keys, Typing event) (shows : Shows size text prompt)
    (unbounded : ¬ Bounded size readLetters text keys) (rest : List TbEvent) :
    prompt.read readLetters (keys ++ rest) = .error { index := size } := by
  have fits := shows_fits shows
  induction keys generalizing text prompt with
  | nil => exact absurd (bounded_nil.mpr fits) unbounded
  | cons event keys ih =>
    rw [List.cons_append, read_typing (typing event List.mem_cons_self)]
    by_cases small : (typeKey readLetters text event).length ≤ size
    · obtain ⟨next, stepped, shown⟩ := keyStep_shows shows event small
      rw [stepped]
      refine ih (fun event member => typing event (List.mem_cons_of_mem _ member)) shown (fun bounded => ?_) small
      exact unbounded (bounded_cons.mpr ⟨fits, bounded⟩)
    · rw [keyStep_overflows shows event small]
      rfl

/-! ## What is typed -/

/-- Every character of the text is one the prompt takes. -/
def Taken (readLetters : Bool) (text : CString) : Prop := ∀ c ∈ text, takesCharacter readLetters c.toNat = true

theorem takesCharacter_small {ch : Nat} (takes : takesCharacter readLetters ch = true) : ch < 128 := by
  have cases := of_decide_eq_true takes
  simp only [Char.reduceToNat] at cases
  omega

theorem toNat_ofNat {ch : Nat} (small : ch < 128) : (Char.ofNat ch).toNat = ch := by
  have valid : ch.isValidChar := Or.inl (by omega)
  unfold Char.ofNat
  rw [dif_pos valid]
  rfl

theorem typeKey_taken (taken : Taken readLetters text) (event : TbEvent) :
    Taken readLetters (typeKey readLetters text event) := by
  unfold typeKey
  split
  · exact taken
  · split
    · exact fun c member => taken c (List.dropLast_subset text member)
    · split
      · rename_i takes
        intro c member
        rcases List.mem_append.mp member with earlier | last
        · exact taken c earlier
        · obtain rfl := List.mem_singleton.mp last
          rwa [toNat_ofNat (takesCharacter_small takes)]
      · exact taken

theorem typed_taken (readLetters : Bool) (events : List TbEvent) : Taken readLetters (typed readLetters events) := by
  have all : ∀ (events : List TbEvent) text, Taken readLetters text →
      Taken readLetters (events.foldl (typeKey readLetters) text) := by
    intro events
    induction events with
    | nil => exact fun _ taken => taken
    | cons event events ih => exact fun text taken => ih _ (typeKey_taken taken event)
  exact all events [] nofun

theorem bufferString_text {buffer : CString} (taken : Taken readLetters text)
    (ended : buffer.take (text.length + 1) = text ++ ['\x00']) : bufferString buffer = text := by
  have visible : ∀ c ∈ text, decide (c ≠ '\x00') = true := by
    intro c member
    refine decide_eq_true fun null => ?_
    subst null
    have takes := taken _ member
    cases readLetters <;> revert takes <;> decide
  unfold bufferString
  rw [← List.take_append_drop (text.length + 1) buffer, ended, List.append_assoc, List.takeWhile_append_of_pos visible]
  exact List.append_nil text

theorem typeKey_length (readLetters : Bool) (text : CString) (event : TbEvent) :
    (typeKey readLetters text event).length ≤ text.length + 1 := by
  unfold typeKey
  split
  · exact Nat.le_succ _
  · split
    · rw [List.length_dropLast]
      omega
    · split
      · exact List.length_append.le
      · exact Nat.le_succ _

theorem typed_length (readLetters : Bool) (events : List TbEvent) (text : CString) :
    (events.foldl (typeKey readLetters) text).length ≤ text.length + events.length := by
  induction events generalizing text with
  | nil => exact Nat.le_refl _
  | cons event events ih =>
    have first := typeKey_length readLetters text event
    have later := ih (typeKey readLetters text event)
    rw [List.foldl_cons, List.length_cons]
    omega

/-- The texts fit into the buffer, and the last one leaves room for its null. -/
structure Fits (size : Nat) (readLetters : Bool) (keys : List TbEvent) : Prop where
  bounded : Bounded size readLetters [] keys
  room : (typed readLetters keys).length < size

theorem fits_iff {keys : List TbEvent} : Fits size readLetters keys ↔
    Bounded size readLetters [] keys ∧ (typed readLetters keys).length < size :=
  ⟨fun fits => ⟨fits.bounded, fits.room⟩, fun ⟨bounded, room⟩ => ⟨bounded, room⟩⟩

instance (size : Nat) (readLetters : Bool) : DecidablePred (Fits size readLetters) :=
  fun _ => decidable_of_iff _ fits_iff.symm

/-- Fewer keys than the buffer has characters always fit. -/
theorem fits_of_few {keys : List TbEvent} (few : keys.length < size) : Fits size readLetters keys where
  bounded := by
    intro earlier member
    have shorter := ((List.mem_inits _ _).mp member).length_le
    have typed := typed_length readLetters earlier []
    rw [List.length_nil, Nat.zero_add] at typed
    omega
  room := by
    have typed := typed_length readLetters keys []
    rw [List.length_nil, Nat.zero_add] at typed
    exact Nat.lt_of_le_of_lt typed few

private theorem read_enter (enter : event.type = tbEventKey ∧ event.key = tbKeyEnter) (prompt : Prompt)
    (rest : List TbEvent) : prompt.read readLetters (event :: rest) =
      writeBuffer prompt.buffer prompt.index '\x00' >>= fun final => .ok (.entered final) := by
  rw [Prompt.read, if_neg (not_not_intro enter.1), if_pos enter.2]

/-- A prompt that is entered has the text in its buffer. -/
theorem terminalRead_entered (buffer : CString) (keys : List TbEvent) (typing : ∀ event ∈ keys, Typing event)
    (fits : Fits buffer.length readLetters keys) (enter : event.type = tbEventKey ∧ event.key = tbKeyEnter)
    (rest : List TbEvent) : ∃ final, terminalRead buffer readLetters (keys ++ event :: rest) = .ok (.entered final) ∧
      final.length = buffer.length ∧ bufferString final = typed readLetters keys := by
  obtain ⟨prompt, reads, shown⟩ := read_shows keys typing (start_shows buffer) fits.bounded (event :: rest)
  obtain ⟨final, written, size, text⟩ := write_shows shown fits.room '\x00'
  refine ⟨final, ?_, size, bufferString_text (typed_taken readLetters keys) text⟩
  unfold terminalRead
  rw [reads, read_enter enter, written]
  rfl

/-- One that does not fit writes behind the end of its buffer. -/
theorem terminalRead_overflows (buffer : CString) (keys : List TbEvent) (typing : ∀ event ∈ keys, Typing event)
    (large : ¬ Fits buffer.length readLetters keys) (enter : event.type = tbEventKey ∧ event.key = tbKeyEnter)
    (rest : List TbEvent) :
    terminalRead buffer readLetters (keys ++ event :: rest) = .error { index := buffer.length } := by
  by_cases bounded : Bounded buffer.length readLetters [] keys
  · obtain ⟨prompt, reads, shown⟩ := read_shows keys typing (start_shows buffer) bounded (event :: rest)
    have full : ¬ (typed readLetters keys).length < buffer.length := fun room => large ⟨bounded, room⟩
    have most : (typed readLetters keys).length = buffer.length :=
      Nat.le_antisymm (bounded_end bounded) (Nat.le_of_not_lt full)
    have written := write_overflows shown full '\x00'
    unfold terminalRead
    rw [reads, read_enter enter, written, ← most]
    rfl
  · exact read_overflows keys typing (start_shows buffer) bounded (event :: rest)

/-- Escape leaves the prompt with any text that has always fitted. -/
theorem terminalRead_cancelled (buffer : CString) (keys : List TbEvent) (typing : ∀ event ∈ keys, Typing event)
    (bounded : Bounded buffer.length readLetters [] keys)
    (escape : event.type = tbEventKey ∧ event.key = tbKeyEsc) (rest : List TbEvent) :
    ∃ final, terminalRead buffer readLetters (keys ++ event :: rest) = .ok (.cancelled final) ∧
      final.length = buffer.length ∧ final.take (typed readLetters keys).length = typed readLetters keys := by
  obtain ⟨prompt, reads, shown⟩ := read_shows keys typing (start_shows buffer) bounded (event :: rest)
  have notEnter : event.key ≠ tbKeyEnter := by
    rw [escape.2]
    decide
  refine ⟨prompt.buffer, ?_, shown.size, shown.text⟩
  unfold terminalRead
  rw [reads, Prompt.read, if_neg (not_not_intro escape.1), if_neg notEnter, if_pos escape.2]

/-! ## Ports -/

theorem taken_port (taken : Taken false text) : ∀ c ∈ text, isDigit c = true ∨ c = '_' := by
  intro c member
  have cases := of_decide_eq_true (taken c member)
  simp only [Bool.false_eq_true, false_and, false_or] at cases
  rcases cases with digit | underscore
  · exact Or.inl (isDigit_iff.mpr digit)
  · exact Or.inr (Char.toNat_inj.mp underscore)

/-- The value `strtol` finds at the beginning of a text. -/
def leadingValue (text : CString) : Nat := min (digitsValue 10 (text.takeWhile isDigit)) (2 ^ 63 - 1)

theorem atoi_port (taken : Taken false text) : atoi text = Int.bmod (leadingValue text) (2 ^ 32) := by
  have port := taken_port taken
  have skipped : skipSpaces text = text := by
    refine skip_of_skipped fun c head => ?_
    rcases port c (List.mem_of_mem_head? head) with digit | rfl
    · exact isSpace_of_isDigit digit
    · rfl
  have unsigned : spanSign text = (false, text) := by
    unfold spanSign
    split
    · exact absurd (port _ List.mem_cons_self) (by decide)
    · exact absurd (port _ List.mem_cons_self) (by decide)
    · rfl
  have digits : (spanDigits 10 text).1 = text.takeWhile isDigit := by
    unfold spanDigits
    rw [List.span_eq_takeWhile_dropWhile, funext isDigitOf_ten]
  unfold atoi leadingValue
  simp only [skipped, unsigned, digits, Bool.false_eq_true, if_false]
  congr 1
  unfold longMin longMax
  omega

/-- An `int` is a port exactly if the value it was cut from ends in one. -/
theorem bmod_port (value : Nat) :
    if value % 2 ^ 32 ≤ 65535 then Int.bmod value (2 ^ 32) = (value % 2 ^ 32 : Nat)
    else Int.bmod value (2 ^ 32) < 0 ∨ Int.bmod value (2 ^ 32) > 65535 := by
  rw [Int.bmod_def]
  split
  · split <;> omega
  · split <;> omega

/-! ## The port prompt -/

/-- What the prompt is there to answer for a text, with the value left in the port. -/
def portVerdict (text : CString) (outPort : Nat) : TerminalReadResult × Nat :=
  if text = [] then (.empty, outPort)
  else if AllDigits text ∧ digitsValue 10 text ≤ 65535 then (.success, digitsValue 10 text)
  else (.invalid, outPort)

/-- The text is empty or a port, or `atoi` makes no port of it. -/
def Acceptable (text : CString) : Prop :=
  text = [] ∨ (AllDigits text ∧ digitsValue 10 text ≤ 65535) ∨ 65535 < leadingValue text % 2 ^ 32

instance : DecidablePred Acceptable := fun _ => inferInstanceAs (Decidable (_ ∨ _ ∨ _))

variable {keys : List TbEvent} {memory : Nat → Char} {outPort : Nat}

theorem localBuffer_length (memory : Nat → Char) : (localBuffer memory).length = 256 := by
  unfold localBuffer
  rw [List.length_map, List.length_range]

private theorem bufferString_nil {buffer : CString} (sized : 0 < buffer.length) :
    buffer.head? = some '\x00' ↔ bufferString buffer = [] := by
  cases buffer with
  | nil => exact absurd sized (Nat.lt_irrefl _)
  | cons c rest => simp [bufferString, List.takeWhile_cons]

/-- The prompt's answer where the text fits. -/
theorem terminalReadPort_entered (typing : ∀ event ∈ keys, Typing event) (fits : Fits 256 false keys)
    (enter : event.type = tbEventKey ∧ event.key = tbKeyEnter) (memory : Nat → Char) (outPort : Nat)
    (rest : List TbEvent) :
    terminalReadPort memory outPort (keys ++ event :: rest) = .ok (some (
      if typed false keys = [] then (.empty, outPort)
      else if leadingValue (typed false keys) % 2 ^ 32 ≤ 65535 then
        (.success, leadingValue (typed false keys) % 2 ^ 32)
      else (.invalid, outPort))) := by
  have size := localBuffer_length memory
  obtain ⟨buffer, entered, same, text⟩ := terminalRead_entered (localBuffer memory) keys typing (size.symm ▸ fits)
    enter rest
  have first : buffer.head? = some '\x00' ↔ typed false keys = [] := by
    rw [← text]
    refine bufferString_nil ?_
    rw [same, size]
    decide
  have value := atoi_port (typed_taken false keys)
  have range := bmod_port (leadingValue (typed false keys))
  unfold terminalReadPort
  rw [entered]
  simp only [bind, Except.bind, first, text, value]
  split
  · rfl
  · split at range
    · rename_i small
      have port : ¬ ((leadingValue (typed false keys) % 2 ^ 32 : Nat) < (0 : Int) ∨
          (leadingValue (typed false keys) % 2 ^ 32 : Nat) > (65535 : Int)) := by omega
      have kept : ((leadingValue (typed false keys) % 2 ^ 32 : Nat) % 2 ^ 16 : Int).toNat =
          leadingValue (typed false keys) % 2 ^ 32 := by omega
      rw [if_pos small, range, if_neg port, kept]
    · rename_i large
      rw [if_neg large, if_pos range]

theorem terminalReadPort_overflows (typing : ∀ event ∈ keys, Typing event) (large : ¬ Fits 256 false keys)
    (enter : event.type = tbEventKey ∧ event.key = tbKeyEnter) (memory : Nat → Char) (outPort : Nat)
    (rest : List TbEvent) :
    terminalReadPort memory outPort (keys ++ event :: rest) = .error { index := 256 } := by
  have size := localBuffer_length memory
  unfold terminalReadPort
  rw [terminalRead_overflows (localBuffer memory) keys typing (size.symm ▸ large) enter rest, size]
  rfl

/-- A port is read as its value. -/
theorem leadingValue_port (all : AllDigits text) (small : digitsValue 10 text ≤ 65535) :
    leadingValue text % 2 ^ 32 = digitsValue 10 text := by
  unfold leadingValue
  rw [List.takeWhile_eq_self_iff.mpr all]
  omega

/-- The port prompt answers as it should, and writes nowhere but in its buffer,
exactly if the texts on the way fit and what is no port is not cut to one. -/
theorem terminalReadPort_iff (keys : List TbEvent) (typing : ∀ event ∈ keys, Typing event)
    (enter : event.type = tbEventKey ∧ event.key = tbKeyEnter) (memory : Nat → Char) (outPort : Nat) :
    terminalReadPort memory outPort (keys ++ [event]) = .ok (some (portVerdict (typed false keys) outPort)) ↔
      Fits 256 false keys ∧ Acceptable (typed false keys) := by
  by_cases fits : Fits 256 false keys
  · rw [terminalReadPort_entered typing fits enter memory outPort [], and_iff_right fits]
    simp only [Except.ok.injEq, Option.some.injEq]
    unfold portVerdict Acceptable
    by_cases empty : typed false keys = []
    · simp [empty]
    · rw [if_neg empty, if_neg empty, or_iff_right empty]
      by_cases port : AllDigits (typed false keys) ∧ digitsValue 10 (typed false keys) ≤ 65535
      · have value := leadingValue_port port.1 port.2
        rw [if_pos port, value, if_pos port.2]
        exact iff_of_true rfl (Or.inl port)
      · rw [if_neg port, or_iff_right port]
        split
        · rename_i small
          exact iff_of_false nofun (Nat.not_lt_of_le small)
        · rename_i large
          exact iff_of_true rfl (Nat.lt_of_not_le large)
  · rw [terminalReadPort_overflows typing fits enter memory outPort []]
    exact iff_of_false nofun fun held => fits held.1

/-! ## Keys for a text -/

instance : DecidablePred Typing := fun _ => inferInstanceAs (Decidable (_ → _))

def characterKey (c : Char) : TbEvent := { type := tbEventKey, key := 0, ch := c.toNat }

def enterKey : TbEvent := { type := tbEventKey, key := tbKeyEnter, ch := 0 }

theorem characterKeys_typing (text : CString) : ∀ event ∈ text.map characterKey, Typing event := by
  intro event member
  obtain ⟨c, -, rfl⟩ := List.mem_map.mp member
  exact fun _ => ⟨nofun, nofun⟩

private theorem typeKey_characterKey {c : Char} (takes : takesCharacter readLetters (characterKey c).ch = true)
    (text : CString) : typeKey readLetters text (characterKey c) = text ++ [c] := by
  have key : ¬ (characterKey c).type ≠ tbEventKey := not_not_intro rfl
  have noBackspace : ¬ ((characterKey c).key = tbKeyBackspace ∨ (characterKey c).key = tbKeyBackspace2) :=
    not_or.mpr ⟨nofun, nofun⟩
  unfold typeKey
  rw [if_neg key, if_neg noBackspace, if_pos takes]
  exact congrArg (fun c => text ++ [c]) (Char.ofNat_toNat c)

/-- Its characters one after the other enter a text. -/
theorem typed_characterKeys (taken : Taken readLetters text) : typed readLetters (text.map characterKey) = text := by
  have behind : ∀ (text earlier : CString), Taken readLetters text →
      (text.map characterKey).foldl (typeKey readLetters) earlier = earlier ++ text := by
    intro text
    induction text with
    | nil => exact fun earlier _ => (List.append_nil earlier).symm
    | cons c rest ih =>
      intro earlier taken
      rw [List.map_cons, List.foldl_cons, typeKey_characterKey (taken c List.mem_cons_self),
        ih _ fun c member => taken c (List.mem_cons_of_mem _ member)]
      exact (List.append_cons earlier c rest).symm
  exact behind text [] taken

theorem taken_digits (all : AllDigits text) : Taken false text := fun c member =>
  decide_eq_true (Or.inl (isDigit_iff.mp (all c member)))

/-- Every port can be entered: its decimal is read as the port. -/
theorem terminalReadPort_decimal {port : Nat} (small : port ≤ 65535) (memory : Nat → Char) (outPort : Nat) :
    terminalReadPort memory outPort ((Nat.toDigits 10 port).map characterKey ++ [enterKey]) =
      .ok (some (.success, port)) := by
  have all := toDigits_allDigits port
  have typed := typed_characterKeys (taken_digits all)
  have value := digitsValue_toDigits port
  have leading : leadingValue (Nat.toDigits 10 port) % 2 ^ 32 = port := by
    rw [leadingValue_port all (value.symm ▸ small), value]
  have few : ((Nat.toDigits 10 port).map characterKey).length < 256 := by
    have five : (Nat.toDigits 10 port).length ≤ 5 := by
      apply Nat.toDigits_length
      · decide
      · omega
    rw [List.length_map]
    omega
  rw [terminalReadPort_entered (characterKeys_typing _) (fits_of_few few) ⟨rfl, rfl⟩, typed, leading,
    if_neg Nat.toDigits_ne_nil, if_pos small]

/-- `80x81`, a backspace and `0`, with a resize of the terminal in between. -/
def correctedKeys : List TbEvent :=
  "80x81".toList.map characterKey ++
    [{ type := tbEventKey, key := tbKeyBackspace2, ch := 0 }, { type := 2, key := 0, ch := 0 }, characterKey '0']

theorem terminalReadPort_iff_correctedKeys :
    terminalReadPort (fun _ => '#') 0 (correctedKeys ++ [enterKey]) = .ok (some (.success, 8080)) := by
  have verdict : portVerdict (typed false correctedKeys) 0 = (.success, 8080) := by decide +kernel
  rw [← verdict]
  exact (terminalReadPort_iff correctedKeys (by decide +kernel) ⟨rfl, rfl⟩ (fun _ => '#') 0).mpr (by decide +kernel)

/-- An underscore, a value that `int` cuts to a port, and a text of the buffer's size. -/
theorem terminalReadPort_misreads :
    terminalReadPort (fun _ => '#') 0 ("80_".toList.map characterKey ++ [enterKey]) = .ok (some (.success, 80)) ∧
      portVerdict (typed false ("80_".toList.map characterKey)) 0 = (.invalid, 0) ∧
      terminalReadPort (fun _ => '#') 0 ("4294967376".toList.map characterKey ++ [enterKey]) =
        .ok (some (.success, 80)) ∧
      portVerdict (typed false ("4294967376".toList.map characterKey)) 0 = (.invalid, 0) ∧
      terminalReadPort (fun _ => '#') 0 (List.replicate 256 (characterKey '0') ++ [enterKey]) =
        .error { index := 256 } := by
  refine ⟨?_, by decide +kernel, ?_, by decide +kernel, ?_⟩
  · rw [terminalReadPort_entered (characterKeys_typing _) (fits_of_few (by decide)) ⟨rfl, rfl⟩]
    decide +kernel
  · rw [terminalReadPort_entered (characterKeys_typing _) (fits_of_few (by decide)) ⟨rfl, rfl⟩]
    decide +kernel
  · have zeros : List.replicate 256 (characterKey '0') = (List.replicate 256 '0').map characterKey :=
      List.map_replicate.symm
    have all : AllDigits (List.replicate 256 '0') := fun c member => List.eq_of_mem_replicate member ▸ rfl
    rw [zeros]
    apply terminalReadPort_overflows (characterKeys_typing _) _ ⟨rfl, rfl⟩
    intro fits
    have room := fits.room
    rw [typed_characterKeys (taken_digits all), List.length_replicate] at room
    exact Nat.lt_irrefl _ room

end SnakePosix.PortPrompt
