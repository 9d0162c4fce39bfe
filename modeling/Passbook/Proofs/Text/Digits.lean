import Mathlib.Algebra.Order.Ring.Nat
import Mathlib.Tactic.GCongr
import Passbook.Text.Integer

/-!
Natural numbers as decimal digits.
-/

set_option autoImplicit false

namespace Passbook.Text

open Nat (toDigits ofDigitChars)

variable {digits : List Char}

theorem isDigit_bounds {char : Char} (digit : char.isDigit = true) :
    48 ≤ char.toNat ∧ char.toNat ≤ 57 := by
  simp only [Char.isDigit, Bool.and_eq_true, decide_eq_true_eq] at digit
  exact digit

theorem append_digitValue (value : ℕ) (digit : Char) :
    value * 10 + digitValue digit = 10 * value + (digit.toNat - '0'.toNat) := by
  rw [mul_comm]
  rfl

theorem le_ofDigitChars (digits : List Char) (value : ℕ) :
    value ≤ ofDigitChars 10 digits value := by
  rw [Nat.ofDigitChars_eq_ofDigitChars_zero]
  have unit : 0 < 10 ^ digits.length := Nat.pow_pos (by decide)
  exact (Nat.le_mul_of_pos_left value unit).trans (Nat.le_add_right _ _)

theorem ofDigitChars_lt (isDigit : digits.all Char.isDigit) :
    ofDigitChars 10 digits 0 < 10 ^ digits.length := by
  induction digits with
  | nil => exact Nat.one_pos
  | cons digit digits ih =>
      rw [List.all_cons, Bool.and_eq_true] at isDigit
      have rest := ih isDigit.2
      have bounds := isDigit_bounds isDigit.1
      have head : 10 ^ digits.length * (10 * 0 + (digit.toNat - 48)) ≤ 10 ^ digits.length * 9 := by
        gcongr
        omega
      rw [Nat.ofDigitChars_cons, Nat.ofDigitChars_eq_ofDigitChars_zero, List.length_cons, pow_succ]
      change 10 ^ digits.length * (10 * 0 + (digit.toNat - 48)) + ofDigitChars 10 digits 0 <
        10 ^ digits.length * 10
      omega

theorem eq_zeros (isDigit : digits.all Char.isDigit) (zero : ofDigitChars 10 digits 0 = 0) :
    digits = List.replicate digits.length '0' := by
  induction digits with
  | nil => rfl
  | cons digit digits ih =>
      rw [List.all_cons, Bool.and_eq_true] at isDigit
      rw [Nat.ofDigitChars_cons, Nat.ofDigitChars_eq_ofDigitChars_zero, Nat.add_eq_zero_iff,
        Nat.mul_eq_zero] at zero
      have first : digit.toNat - 48 = 0 := by
        have head := zero.1.resolve_left (Nat.pow_pos (by decide)).ne'
        rw [mul_zero, zero_add] at head
        exact head
      have bounds := isDigit_bounds isDigit.1
      have same : digit = '0' := by
        apply Char.toNat_inj.mp
        change digit.toNat = 48
        omega
      rw [List.length_cons, List.replicate_succ, same, ← ih isDigit.2 zero.2]

theorem toDigits_isDigit (number : ℕ) : (Nat.toDigits 10 number).all Char.isDigit := by
  rw [List.all_eq_true]
  exact fun char member => Nat.isDigit_of_mem_toDigits (by decide) (by decide) member

theorem padded_isDigit (zeros number : ℕ) :
    (List.replicate zeros '0' ++ toDigits 10 number).all Char.isDigit := by
  rw [List.all_append, toDigits_isDigit, List.all_replicate]
  simp

theorem ofDigitChars_padded (zeros number : ℕ) :
    ofDigitChars 10 (List.replicate zeros '0' ++ toDigits 10 number) 0 = number := by
  rw [Nat.ofDigitChars_append, Nat.ofDigitChars_replicate_zero, mul_zero,
    Nat.ofDigitChars_ten_toDigits]

theorem digitsValue_eq (digits : List Char) : digitsValue digits = ofDigitChars 10 digits 0 := by
  rw [digitsValue, ofDigitChars]
  congr 1
  funext value digit
  rw [append_digitValue]

theorem digitsValue_toDigits (number : ℕ) : digitsValue (toDigits 10 number) = number := by
  rw [digitsValue_eq, Nat.ofDigitChars_ten_toDigits]

end Passbook.Text
