import Mathlib.Order.Basic

/-! Steps along a cycle of `size` positions `0 .. size - 1`. -/
namespace SnakePosix.Cyclic

def forward (size position : Nat) : Nat := if position = size - 1 then 0 else position + 1

def backward (size position : Nat) : Nat := if position = 0 then size - 1 else position - 1

theorem forward_lt (inside : position < size) : forward size position < size := by
  unfold forward
  split <;> omega

theorem backward_lt (inside : position < size) : backward size position < size := by
  have positive := Nat.zero_lt_of_lt inside
  unfold backward
  split <;> omega

theorem backward_forward (inside : position < size) : backward size (forward size position) = position := by
  have positive := Nat.zero_lt_of_lt inside
  unfold backward forward
  split <;> split <;> omega

theorem forward_backward (inside : position < size) : forward size (backward size position) = position := by
  unfold backward forward
  split <;> split <;> omega

theorem forward_ne (large : 2 ≤ size) : forward size position ≠ position := by
  unfold forward
  split <;> omega

theorem backward_ne (large : 2 ≤ size) (inside : position < size) :
    backward size position ≠ position := by
  have positive := Nat.zero_lt_of_lt inside
  unfold backward
  split <;> omega

/-- On a cycle of at least three positions the two neighbors differ. -/
theorem forward_ne_backward (large : 3 ≤ size) : forward size position ≠ backward size position := by
  unfold forward backward
  split <;> split <;> omega

end SnakePosix.Cyclic
