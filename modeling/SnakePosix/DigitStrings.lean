import Mathlib.Data.List.TakeDrop
import SnakePosix.Foundation.Marks
import SnakePosix.Libargs.Args

/-! Digit strings and the numbers the C library reads from them. -/
namespace SnakePosix.DigitStrings
open Marks

variable {digits rest : CString} {c : Char}

/-! ## Classes of characters -/

theorem isDigit_iff : isDigit c = true ↔ 48 ≤ c.toNat ∧ c.toNat ≤ 57 := by
  unfold isDigit
  rw [decide_eq_true_iff]
  exact Iff.rfl

theorem digitValue_of_isDigit (digit : isDigit c = true) : digitValue c = some (c.toNat - 48) := if_pos digit

theorem isDigitOf_ten (c : Char) : isDigitOf 10 c = isDigit c := by
  unfold isDigitOf
  by_cases digit : isDigit c = true
  · have bounds := isDigit_iff.mp digit
    rw [digitValue_of_isDigit digit, digit]
    simp only [Option.any_some, decide_eq_true_iff]
    omega
  · unfold digitValue
    rw [if_neg digit, Bool.eq_false_iff.mpr digit]
    split
    · simp
    · split
      · simp
      · rfl

theorem isSpace_of_isDigit (digit : isDigit c = true) : isSpace c = false := by
  have bounds := isDigit_iff.mp digit
  refine Bool.eq_false_iff.mpr fun space => ?_
  rcases of_decide_eq_true space with rfl | small
  · exact absurd bounds (by decide)
  · omega

/-! ## The digits at the beginning of a string -/

/-- Decimal digits only. -/
def AllDigits (digits : CString) : Prop := ∀ c ∈ digits, isDigit c = true

instance : DecidablePred AllDigits := List.decidableBAll fun c => isDigit c = true

theorem spanDigits_append (all : AllDigits digits) (stop : ∀ c ∈ rest.head?, isDigit c = false) :
    spanDigits 10 (digits ++ rest) = (digits, rest) := by
  have all : ∀ c ∈ digits, isDigitOf 10 c = true := fun c member => (isDigitOf_ten c).trans (all c member)
  unfold spanDigits
  rw [List.span_eq_takeWhile_dropWhile, List.takeWhile_append_of_pos all, List.dropWhile_append_of_pos all]
  cases rest with
  | nil => simp
  | cons c rest =>
    have stops : ¬ isDigitOf 10 c = true := by
      rw [isDigitOf_ten, stop c rfl]
      exact Bool.false_ne_true
    rw [List.takeWhile_cons_of_neg stops, List.dropWhile_cons_of_neg stops, List.append_nil]

/-- A number begins with no sign. -/
theorem spanSign_digits (all : AllDigits digits) (some : digits ≠ []) (rest : CString) :
    spanSign (digits ++ rest) = (false, digits ++ rest) := by
  cases digits with
  | nil => exact absurd rfl some
  | cons c digits =>
    have digit := all c List.mem_cons_self
    unfold spanSign
    split
    · rename_i same
      cases same
      cases digit
    · rename_i same
      cases same
      cases digit
    · rfl

theorem skipSpaces_digits (all : AllDigits digits) (some : digits ≠ []) (rest : CString) :
    skipSpaces (digits ++ rest) = digits ++ rest := by
  cases digits with
  | nil => exact absurd rfl some
  | cons c digits =>
    exact skip_of_skipped fun first head => Option.some.inj head ▸ isSpace_of_isDigit (all c List.mem_cons_self)

/-! ## Decimals -/

theorem toDigits_allDigits (n : Nat) : AllDigits (Nat.toDigits 10 n) := fun _ member =>
  isDigit_iff.mpr (Char.isDigit_iff_toNat.mp (Nat.isDigit_of_mem_toDigits (by decide) (by decide) member))

private theorem foldl_eq_ofDigitChars (all : AllDigits digits) (value : Nat) :
    digits.foldl (fun value c => value * 10 + (digitValue c).getD 0) value = Nat.ofDigitChars 10 digits value := by
  induction digits generalizing value with
  | nil => exact Nat.ofDigitChars_nil.symm
  | cons c digits ih =>
    rw [Nat.ofDigitChars_cons, List.foldl_cons, digitValue_of_isDigit (all c List.mem_cons_self),
      ih fun c member => all c (List.mem_cons_of_mem _ member), Nat.mul_comm]
    rfl

/-- The decimal of a number reads as that number. -/
theorem digitsValue_toDigits (n : Nat) : digitsValue 10 (Nat.toDigits 10 n) = n :=
  (foldl_eq_ofDigitChars (toDigits_allDigits n) 0).trans Nat.ofDigitChars_ten_toDigits

end SnakePosix.DigitStrings
