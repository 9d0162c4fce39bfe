import Passbook.Json.Ledger
import Passbook.Proofs.Decimal.Positional

/-!
Plain numbers of documents, without sign and exponent, and the values that they denote. As the
content of a string every payable number is read exactly, however many zeros it ends in.
-/

set_option autoImplicit false

namespace Passbook.Json

open Nat (ofDigitChars)
open Text (append_digitValue le_ofDigitChars ofDigitChars_lt eq_zeros)

/-- A number without sign and exponent, as a document may hold it. A number without a point has no
fraction. -/
structure Numeral where
  whole : List Char
  fraction : List Char
  wholeDigits : whole.all Char.isDigit = true
  fractionDigits : fraction.all Char.isDigit = true
  nonempty : whole ≠ []
  leading : whole.head? = some '0' → whole = ['0']

namespace Numeral

variable (numeral : Numeral)

def text : List Char :=
  if numeral.fraction = [] then numeral.whole else numeral.whole ++ '.' :: numeral.fraction

/-- All its digits as one whole number, the point left out. -/
def number : ℕ := ofDigitChars 10 (numeral.whole ++ numeral.fraction) 0

def toRat : ℚ := numeral.number / 10 ^ numeral.fraction.length

def parts : NumberText := ⟨false, numeral.whole, numeral.fraction, !numeral.fraction.isEmpty, none⟩

/-- Whether the number is an amount that can be posted, whatever digits it is written with. -/
structure Payable : Prop where
  positive : 0 < numeral.toRat
  bounded : numeral.toRat ≤ maxMoney.toRat
  fine : ∃ units : ℕ, numeral.toRat = units / 10 ^ moneyScale

variable {numeral}

theorem all_text {holds : Char → Bool}
    (digit : ∀ {char : Char}, char.isDigit = true → holds char = true) (point : holds '.' = true) :
    numeral.text.all holds = true := by
  have all : ∀ {digits : List Char}, digits.all Char.isDigit = true → digits.all holds = true := by
    intro digits isDigits
    exact List.all_eq_true.mpr fun char member => digit (List.all_eq_true.mp isDigits char member)
  rw [text]
  split
  · exact all numeral.wholeDigits
  · rw [List.all_append, List.all_cons, all numeral.wholeDigits, all numeral.fractionDigits, point]
    rfl

/-- What comes after the fourth digit of a payable fraction are zeros. -/
theorem Payable.zeros (payable : numeral.Payable) :
    ∃ front count, numeral.fraction = front ++ List.replicate count '0' ∧
      front.length ≤ moneyScale := by
  by_cases short : numeral.fraction.length ≤ moneyScale
  · exact ⟨numeral.fraction, 0, by simp, short⟩
  · obtain ⟨units, same⟩ := payable.fine
    refine ⟨numeral.fraction.take moneyScale, (numeral.fraction.drop moneyScale).length, ?_,
      by simp⟩
    have isDigit := numeral.fractionDigits
    rw [← List.take_append_drop moneyScale numeral.fraction, List.all_append, Bool.and_eq_true]
      at isDigit
    have small := ofDigitChars_lt isDigit.2
    have split : numeral.number = 10 ^ (numeral.fraction.drop moneyScale).length *
        ofDigitChars 10 (numeral.whole ++ numeral.fraction.take moneyScale) 0 +
          ofDigitChars 10 (numeral.fraction.drop moneyScale) 0 := by
      rw [← Nat.ofDigitChars_eq_ofDigitChars_zero, ← Nat.ofDigitChars_append, List.append_assoc,
        List.take_append_drop, number]
    have multiple : numeral.number = 10 ^ (numeral.fraction.drop moneyScale).length * units := by
      have length : numeral.fraction.length =
          (numeral.fraction.drop moneyScale).length + moneyScale := by
        rw [List.length_drop]
        omega
      rw [toRat, length, pow_add, div_eq_div_iff (by positivity) (by positivity)] at same
      have cancelled : (numeral.number : ℚ) =
          10 ^ (numeral.fraction.drop moneyScale).length * units := by
        have unit : (10 : ℚ) ^ moneyScale ≠ 0 := by positivity
        apply mul_right_cancel₀ unit
        linarith
      exact_mod_cast cancelled
    have zero : ofDigitChars 10 (numeral.fraction.drop moneyScale) 0 = 0 := by
      have divides : 10 ^ (numeral.fraction.drop moneyScale).length ∣
          ofDigitChars 10 (numeral.fraction.drop moneyScale) 0 := by
        have whole : 10 ^ (numeral.fraction.drop moneyScale).length ∣ numeral.number :=
          ⟨units, multiple⟩
        rw [split] at whole
        exact (Nat.dvd_add_right (Nat.dvd_mul_right _ _)).mp whole
      exact Nat.eq_zero_of_dvd_of_lt divides small
    rw [← eq_zeros isDigit.2 zero, List.take_append_drop]

theorem toRat_of_zeros {front : List Char} {count : ℕ}
    (split : numeral.fraction = front ++ List.replicate count '0') :
    numeral.toRat = ofDigitChars 10 (numeral.whole ++ front) 0 / 10 ^ front.length := by
  rw [toRat, number, split, ← List.append_assoc, Nat.ofDigitChars_append,
    Nat.ofDigitChars_replicate_zero, List.length_append, List.length_replicate, pow_add]
  push_cast
  field_simp

theorem Payable.toRat_le (payable : numeral.Payable) : numeral.toRat ≤ 10 ^ 16 := by
  have largest : maxMoney.toRat ≤ 10 ^ 16 := by
    norm_num [Decimal.toRat, Decimal.coefficient, maxMoney, moneyScale]
  exact payable.bounded.trans largest

theorem Payable.front_lt (payable : numeral.Payable) {front : List Char} {count : ℕ}
    (split : numeral.fraction = front ++ List.replicate count '0')
    (short : front.length ≤ moneyScale) :
    ofDigitChars 10 (numeral.whole ++ front) 0 < mantissaBound := by
  have bounded := payable.toRat_le
  have grid : (10 : ℚ) ^ front.length ≤ 10 ^ 4 := pow_le_pow_right₀ (by norm_num) short
  rw [toRat_of_zeros split, div_le_iff₀ (by positivity)] at bounded
  have digits : (ofDigitChars 10 (numeral.whole ++ front) 0 : ℚ) ≤ (10 ^ 20 : ℕ) := by
    calc (ofDigitChars 10 (numeral.whole ++ front) 0 : ℚ) ≤ 10 ^ 16 * 10 ^ front.length := bounded
      _ ≤ 10 ^ 16 * 10 ^ 4 := by gcongr
      _ = (10 ^ 20 : ℕ) := by norm_num
  have room : 10 ^ 20 < mantissaBound := by decide
  exact (Nat.cast_le.mp digits).trans_lt room

theorem Payable.le_toRat (payable : numeral.Payable) : 1 / 10 ^ moneyScale ≤ numeral.toRat := by
  obtain ⟨units, same⟩ := payable.fine
  have some : units ≠ 0 := by
    intro zero
    have positive := payable.positive
    rw [same, zero, Nat.cast_zero, zero_div] at positive
    exact lt_irrefl _ positive
  have one : (1 : ℚ) ≤ units := by exact_mod_cast Nat.pos_of_ne_zero some
  rw [same]
  gcongr

theorem Payable.number_pos (payable : numeral.Payable) : 0 < numeral.number := by
  refine Nat.pos_of_ne_zero fun zero => ?_
  have positive := payable.positive
  rw [toRat, zero, Nat.cast_zero, zero_div] at positive
  exact lt_irrefl _ positive

/-- As the content of a string a payable number is read exactly. -/
theorem Payable.read_text (payable : numeral.Payable) :
    ∃ value, Decimal.read numeral.text = some value ∧ value.toRat = numeral.toRat := by
  obtain ⟨front, count, split, short⟩ := payable.zeros
  have small := payable.front_lt split short
  have plain : ∃ value, Decimal.readPlain numeral.text = some value ∧
      value.toRat = numeral.toRat := by
    rw [text, toRat_of_zeros split]
    split
    · next integral =>
        have empty : front = [] := (List.append_eq_nil_iff.mp (split.symm.trans integral)).1
        rw [empty, List.append_nil] at small ⊢
        rw [List.length_nil, pow_zero, div_one]
        exact Decimal.readPlain_whole numeral.wholeDigits numeral.nonempty small
    · have isDigit := numeral.fractionDigits
      rw [split, List.all_append, Bool.and_eq_true] at isDigit
      rw [split]
      exact Decimal.readPlain_fraction numeral.wholeDigits numeral.nonempty isDigit.1 small
        (short.trans (by decide)) count
  obtain ⟨value, found, same⟩ := plain
  refine ⟨value, ?_, same⟩
  rw [Decimal.read, found]
  rfl

end Numeral

/-!
## Digits of whole numbers
-/

variable {digits : List Char} {value : ℕ}

theorem appendDigits_cons {digit : Char}
    (fits : 10 * value + (digit.toNat - '0'.toNat) < twoTo 64) :
    appendDigits value (digit :: digits) =
      appendDigits (10 * value + (digit.toNat - '0'.toNat)) digits := by
  simp only [appendDigits, append_digitValue, fits, if_true]

theorem appendDigits_eq (small : ofDigitChars 10 digits value < twoTo 64) :
    appendDigits value digits = (ofDigitChars 10 digits value, 0) := by
  induction digits generalizing value with
  | nil => rfl
  | cons digit digits ih =>
      rw [Nat.ofDigitChars_cons] at small ⊢
      rw [appendDigits_cons ((le_ofDigitChars digits _).trans_lt small), ih small]

end Passbook.Json
