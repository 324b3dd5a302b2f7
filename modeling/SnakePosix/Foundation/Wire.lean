import Mathlib.Data.List.Basic
import Mathlib.Tactic.Ring

/-! Bytes on a wire: fixed-width little-endian numbers, reads of an exact number
of bytes, and streams of messages that carry no length of their own. -/
namespace SnakePosix.Wire

/-! ## Little-endian numbers -/

/-- The lowest bytes of a number, the least significant first. -/
def encodeLE : Nat → Nat → List UInt8
  | 0, _ => []
  | width + 1, value => UInt8.ofNat value :: encodeLE width (value / 256)

def decodeLE : List UInt8 → Nat
  | [] => 0
  | byte :: rest => byte.toNat + 256 * decodeLE rest

@[simp] theorem encodeLE_length (width value : Nat) : (encodeLE width value).length = width := by
  induction width generalizing value with
  | zero => rfl
  | succ width ih => rw [encodeLE, List.length_cons, ih]

/-- Decoding gives the value back, up to the width. -/
theorem decodeLE_encodeLE (width value : Nat) : decodeLE (encodeLE width value) = value % 256 ^ width := by
  induction width generalizing value with
  | zero => rw [Nat.pow_zero, Nat.mod_one]; rfl
  | succ width ih =>
    have low : (UInt8.ofNat value).toNat = value % 256 := UInt8.toNat_ofNat' ..
    rw [encodeLE, decodeLE, ih, low, Nat.pow_succ', Nat.mod_mul]

theorem decodeLE_encodeLE_of_lt (bound : value < 256 ^ width) : decodeLE (encodeLE width value) = value := by
  rw [decodeLE_encodeLE, Nat.mod_eq_of_lt bound]

/-- A number that was read is written back as the same bytes. -/
theorem encodeLE_decodeLE (length : bytes.length = width) : encodeLE width (decodeLE bytes) = bytes := by
  induction bytes generalizing width with
  | nil =>
    subst length
    rfl
  | cons byte rest ih =>
    subst length
    have bound := byte.toNat_lt
    have low : UInt8.ofNat (byte.toNat + 256 * decodeLE rest) = byte := by
      rw [← UInt8.toNat_inj, UInt8.toNat_ofNat', Nat.add_mul_mod_self_left, Nat.mod_eq_of_lt bound]
    have high : (byte.toNat + 256 * decodeLE rest) / 256 = decodeLE rest := by omega
    rw [List.length_cons, decodeLE, encodeLE, low, high, ih rfl]

/-! ## Buffers and reads -/

/-- The buffer with the bytes copied into it from an offset on. -/
def overwrite (buffer : List UInt8) (offset : Nat) (bytes : List UInt8) : List UInt8 :=
  buffer.take offset ++ bytes ++ buffer.drop (offset + bytes.length)

/-- A leading byte and a body that fills the rest leave nothing of the buffer. -/
theorem overwrite_all (fill first : UInt8) (body : List UInt8) :
    overwrite (overwrite (List.replicate (1 + body.length) fill) 0 [first]) 1 body = first :: body := by
  simp [overwrite, Nat.add_comm 1]

theorem overwrite_first (fill first : UInt8) : overwrite (List.replicate 1 fill) 0 [first] = [first] := rfl

/-- Exactly the next bytes of a stream, or none if there are fewer. -/
def readExactly (stream : List UInt8) (count : Nat) : Option (List UInt8 × List UInt8) :=
  if count ≤ stream.length then some (stream.take count, stream.drop count) else none

theorem readExactly_append (length : bytes.length = count) :
    readExactly (bytes ++ rest) count = some (bytes, rest) := by
  subst length
  simp [readExactly]

/-- What was read and what is left make up the stream. -/
theorem readExactly_sound (read : readExactly stream count = some (bytes, rest)) :
    stream = bytes ++ rest ∧ bytes.length = count := by
  unfold readExactly at read
  split at read
  · cases read
    exact ⟨(List.take_append_drop count stream).symm, List.length_take_of_le ‹_›⟩
  · cases read

/-! ## Streams of messages -/

/-- Reads a number of messages one after another. -/
def readMany (read : List α → Option (β × List α)) : Nat → List α → Option (List β × List α)
  | 0, stream => some ([], stream)
  | count + 1, stream => do
    let (message, stream) ← read stream
    let (messages, stream) ← readMany read count stream
    some (message :: messages, stream)

/-- Where every message reads back with whatever follows it, so does every
concatenation. -/
theorem readMany_flatMap {read : List α → Option (β × List α)} {write : β → List α} (messages : List β)
    (rest : List α) (each : ∀ message ∈ messages, ∀ rest, read (write message ++ rest) = some (message, rest)) :
    readMany read messages.length (messages.flatMap write ++ rest) = some (messages, rest) := by
  induction messages with
  | nil => rfl
  | cons message messages ih =>
    have first := each message List.mem_cons_self (messages.flatMap write ++ rest)
    have later := ih fun message member => each message (List.mem_cons_of_mem _ member)
    simp only [List.flatMap_cons, List.append_assoc, List.length_cons, readMany, first, later,
      Option.bind_eq_bind, Option.bind_some]

end SnakePosix.Wire
