import EntityStore.Decimal.Basic
import Mathlib.Algebra.Group.Nat.Defs

/-!
# Digits are read as they are written

The digits of a number have its value, however many zeros fill them up on the left.
-/

namespace EntityStore.Decimal

theorem isDigit_eq (c : Char) : isDigit c = c.isDigit := by
  have same : ('0' ≤ c ∧ c ≤ '9') ↔ c.isDigit = true := by
    simp only [Char.isDigit, Char.le_def, Bool.and_eq_true, decide_eq_true_eq, ge_iff_le]
  rw [Bool.eq_iff_iff, ← same, isDigit, digitValue?]
  split <;> simp_all

theorem valueFrom_eq (start : Nat) (digits : List Char) :
    valueFrom start digits = Nat.ofDigitChars 10 digits start := by
  induction digits generalizing start with
  | nil => rfl
  | cons c rest ih =>
    rw [Nat.ofDigitChars_cons, Nat.mul_comm]
    exact ih _

theorem value_digitsOf (n : Nat) : value (digitsOf n) = n := by
  rw [value, valueFrom_eq, digitsOf, Nat.ofDigitChars_ten_toDigits]

theorem toList_padded (width n : Nat) :
    (padded width n).toList =
      List.replicate (width - (digitsOf n).length) '0' ++ digitsOf n :=
  String.toList_ofList

theorem value_zeros (count : Nat) (digits : List Char) :
    value (List.replicate count '0' ++ digits) = value digits := by
  induction count with
  | zero => rfl
  | succ count ih => exact ih

/-- Zeros in front do not change the value. -/
theorem value_padded (width n : Nat) : value (padded width n).toList = n := by
  rw [toList_padded, value_zeros, value_digitsOf]

theorem isDigit_of_mem_padded {width n : Nat} {c : Char} (member : c ∈ (padded width n).toList) :
    isDigit c = true := by
  rw [toList_padded, List.mem_append] at member
  rw [isDigit_eq]
  rcases member with zero | digit
  · rw [List.eq_of_mem_replicate zero]
    rfl
  · exact Nat.isDigit_of_mem_toDigits (by decide) (by decide) digit

/-- A number that fits the width takes exactly the width. -/
theorem length_padded {width n : Nat} (positive : 0 < width) (small : n < 10 ^ width) :
    (padded width n).toList.length = width := by
  have fits : (digitsOf n).length ≤ width :=
    (Nat.length_toDigits_le_iff (by decide) positive).mpr small
  rw [toList_padded, List.length_append, List.length_replicate]
  omega

theorem padded_ne_nil (width n : Nat) : (padded width n).toList ≠ [] := by
  have nonempty : digitsOf n ≠ [] := Nat.toDigits_ne_nil
  simp [toList_padded, nonempty]

end EntityStore.Decimal
