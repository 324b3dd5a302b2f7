import SnakePosix.Foundation.Wire

/-! Bytes that travel in pieces. A buffer into whose start every piece is copied, and
a receiver that is sent the beginning again for every piece, end up with the whole
only where the pieces repeat each other in the right places. -/
namespace SnakePosix.Pieces
open Wire

/-! ## Cutting -/

/-- The bytes in pieces of the given sizes. -/
def cut : List Nat → List UInt8 → List (List UInt8)
  | [], _ => []
  | size :: rest, bytes => bytes.take size :: cut rest (bytes.drop size)

/-- The sizes of pieces that are each at least one byte and at most what remains. -/
def pieceSizes (draws : Nat → Nat) (calls remaining : Nat) : List Nat :=
  if 0 < remaining then
    let size := 1 + draws calls % remaining
    size :: pieceSizes draws (calls + 1) (remaining - size)
  else []
termination_by remaining
decreasing_by omega

variable {sizes : List Nat} {buffer bytes piece : List UInt8} {draws : Nat → Nat} {calls remaining : Nat}

theorem size_le (positive : 0 < remaining) (draw : Nat) : 1 + draw % remaining ≤ remaining := by
  have below := Nat.mod_lt draw positive
  omega

theorem pieceSizes_done (draws : Nat → Nat) (calls : Nat) : pieceSizes draws calls 0 = [] := by
  rw [pieceSizes, if_neg (Nat.lt_irrefl 0)]

theorem pieceSizes_step (positive : 0 < remaining) :
    pieceSizes draws calls remaining =
      (1 + draws calls % remaining) :: pieceSizes draws (calls + 1) (remaining - (1 + draws calls % remaining)) := by
  rw [pieceSizes, if_pos positive]

/-- The pieces make up what was asked for. -/
theorem pieceSizes_sum (draws : Nat → Nat) (calls remaining : Nat) :
    (pieceSizes draws calls remaining).sum = remaining := by
  induction remaining using Nat.strongRecOn generalizing calls with
  | ind remaining ih =>
    rcases Nat.eq_zero_or_pos remaining with rfl | positive
    · rw [pieceSizes_done]
      rfl
    · have bound := size_le positive (draws calls)
      rw [pieceSizes_step positive, List.sum_cons, ih _ (by omega)]
      omega

theorem cut_flatten (sizes : List Nat) (bytes : List UInt8) :
    (cut sizes bytes).flatten = bytes.take sizes.sum := by
  induction sizes generalizing bytes with
  | nil => simp [cut]
  | cons size rest ih => rw [cut, List.flatten_cons, ih, List.sum_cons, List.take_add]

theorem cut_lengths (enough : sizes.sum ≤ bytes.length) : (cut sizes bytes).map List.length = sizes := by
  induction sizes generalizing bytes with
  | nil => rfl
  | cons size rest ih =>
    rw [List.sum_cons] at enough
    have later : rest.sum ≤ (bytes.drop size).length := by
      rw [List.length_drop]
      omega
    rw [cut, List.map_cons, ih later, List.length_take_of_le (by omega)]

/-! ## Sending the beginning again -/

/-- Every piece of the bytes is what the bytes begin with. -/
def Repeats (sizes : List Nat) (bytes : List UInt8) : Prop := cut sizes bytes = sizes.map bytes.take

theorem beginning_lengths (enough : sizes.sum ≤ bytes.length) :
    (sizes.map bytes.take).map List.length = sizes := by
  induction sizes with
  | nil => rfl
  | cons size rest ih =>
    rw [List.sum_cons] at enough
    rw [List.map_cons, List.map_cons, ih (by omega), List.length_take_of_le (by omega)]

/-- The beginning sent for every piece makes up the bytes exactly when they repeat
their beginning. -/
theorem resent_iff (whole : sizes.sum = bytes.length) :
    (sizes.map bytes.take).flatten = bytes ↔ Repeats sizes bytes := by
  have pieces : (cut sizes bytes).flatten = bytes := by
    rw [cut_flatten, whole, List.take_length]
  have lengths : (cut sizes bytes).map List.length = (sizes.map bytes.take).map List.length := by
    rw [cut_lengths whole.le, beginning_lengths whole.le]
  rw [Repeats, List.eq_iff_flatten_eq, pieces]
  constructor
  · exact fun same => ⟨same.symm, lengths⟩
  · exact fun same => same.1.symm

/-! ## Copying to the start -/

/-- Every piece is copied to the start of the buffer. -/
def pile (buffer : List UInt8) (pieces : List (List UInt8)) : List UInt8 :=
  pieces.foldl (fun buffer piece => overwrite buffer 0 piece) buffer

/-- Which of the bytes a place of the buffer is left with; none is the one it held. -/
def landed : List Nat → Nat → Option Nat
  | [], _ => none
  | size :: rest, place =>
    match landed rest place with
    | some source => some (size + source)
    | none => if place < size then some place else none

/-- What a place of the buffer is left with. -/
def landing (buffer bytes : List UInt8) (sizes : List Nat) (place : Nat) : Option UInt8 :=
  match landed sizes place with
  | some source => bytes[source]?
  | none => buffer[place]?

/-- Every place of the buffer is left with the byte that belongs there. -/
def InPlace (buffer bytes : List UInt8) (sizes : List Nat) : Prop :=
  ∀ place < buffer.length, landing buffer bytes sizes place = bytes[place]?

theorem overwrite_start_length (fits : piece.length ≤ buffer.length) :
    (overwrite buffer 0 piece).length = buffer.length := by
  simp only [overwrite, List.take_zero, List.nil_append, Nat.zero_add, List.length_append, List.length_drop]
  omega

theorem overwrite_start (buffer piece : List UInt8) (place : Nat) :
    (overwrite buffer 0 piece)[place]? = if place < piece.length then piece[place]? else buffer[place]? := by
  simp only [overwrite, List.take_zero, List.nil_append, Nat.zero_add]
  split
  · rename_i within
    exact List.getElem?_append_left within
  · rename_i beyond
    rw [List.getElem?_append_right (Nat.le_of_not_lt beyond), List.getElem?_drop,
      Nat.add_sub_cancel' (Nat.le_of_not_lt beyond)]

theorem pile_landing (fits : sizes.sum ≤ buffer.length) (enough : sizes.sum ≤ bytes.length) (place : Nat) :
    (pile buffer (cut sizes bytes))[place]? = landing buffer bytes sizes place := by
  induction sizes generalizing buffer bytes with
  | nil => rfl
  | cons size rest ih =>
    rw [List.sum_cons] at fits enough
    have piece : (bytes.take size).length = size := List.length_take_of_le (by omega)
    have length : (overwrite buffer 0 (bytes.take size)).length = buffer.length :=
      overwrite_start_length (by omega)
    have later : rest.sum ≤ (bytes.drop size).length := by
      rw [List.length_drop]
      omega
    have piled : (pile (overwrite buffer 0 (bytes.take size)) (cut rest (bytes.drop size)))[place]? =
        landing (overwrite buffer 0 (bytes.take size)) (bytes.drop size) rest place := ih (by omega) later
    rw [cut, pile, List.foldl_cons, ← pile, piled, landing, landing, landed]
    cases landed rest place with
    | some source => exact List.getElem?_drop
    | none =>
      dsimp only
      rw [overwrite_start, piece]
      split
      · rename_i within
        exact List.getElem?_take_of_lt within
      · rfl

theorem pile_length (fits : sizes.sum ≤ buffer.length) :
    (pile buffer (cut sizes bytes)).length = buffer.length := by
  induction sizes generalizing buffer bytes with
  | nil => rfl
  | cons size rest ih =>
    rw [List.sum_cons] at fits
    have length : (overwrite buffer 0 (bytes.take size)).length = buffer.length :=
      overwrite_start_length ((List.length_take_le _ _).trans (by omega))
    rw [cut, pile, List.foldl_cons, ← pile, ih (by omega), length]

/-- The buffer is left with the bytes in order exactly when each of its places is. -/
theorem pile_iff (fits : sizes.sum ≤ buffer.length) (enough : buffer.length ≤ bytes.length) :
    pile buffer (cut sizes bytes) = bytes.take buffer.length ↔ InPlace buffer bytes sizes := by
  have places := pile_landing fits (fits.trans enough)
  constructor
  · intro same place within
    rw [← places, same, List.getElem?_take_of_lt within]
  · intro inPlace
    apply List.ext_getElem?
    intro place
    rcases Nat.lt_or_ge place buffer.length with within | beyond
    · rw [places, inPlace place within, List.getElem?_take_of_lt within]
    · rw [List.getElem?_eq_none (by rw [pile_length fits]; exact beyond),
        List.getElem?_eq_none ((List.length_take_le _ _).trans beyond)]

/-- One piece is always in place. -/
theorem inPlace_single (buffer bytes : List UInt8) : InPlace buffer bytes [buffer.length] := by
  intro place within
  simp [landing, landed, within]

/-- Nor does one piece need the beginning twice. -/
theorem repeats_single (bytes : List UInt8) : Repeats [bytes.length] bytes := rfl

end SnakePosix.Pieces
