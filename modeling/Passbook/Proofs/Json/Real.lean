import Passbook.Proofs.Decimal.Close
import Passbook.Proofs.Json.Numeral

/-!
Plain numbers as values of their own. A number without a point stays an integer. A number with a
point becomes a double and then the decimal of that double's shortest text: five roundings at most,
none of which loses anything if all the digits that are written, zeros at the end included, form a
number below `2 ^ 52`.
-/

set_option autoImplicit false

namespace Passbook.Json

open Nat (ofDigitChars)
open Text (append_digitValue ofDigitChars_lt)
open Double (nearestTo? Ordinary Nearest)

/-!
## Digits
-/

variable {digits : List Char} {value : ℕ}

/-- Digits after a number of at least fifty-three bits change it by at most one part in `2 ^ 52`. -/
theorem leading_close (isDigit : digits.all Char.isDigit) (large : 2 ^ 52 ≤ value) :
    Close 1 (value * 10 ^ digits.length) (ofDigitChars 10 digits value) := by
  have enough : (2 : ℚ) ^ 52 ≤ value := by exact_mod_cast large
  have lost : (ofDigitChars 10 digits 0 : ℚ) ≤ 10 ^ digits.length := by
    exact_mod_cast (ofDigitChars_lt isDigit).le
  have some : (0 : ℚ) ≤ ofDigitChars 10 digits 0 := Nat.cast_nonneg _
  have unit : (0 : ℚ) < 10 ^ digits.length := by positivity
  have product := mul_le_mul_of_nonneg_right enough unit.le
  have full : (ofDigitChars 10 digits value : ℚ) = value * 10 ^ digits.length +
      ofDigitChars 10 digits 0 := by
    rw [Nat.ofDigitChars_eq_ofDigitChars_zero]
    push_cast
    ring
  rw [full]
  constructor <;> rw [pow_one, rounding] <;> linarith

/-- Of digits that do not fit sixty-four bits the first ones are used. -/
theorem appendDigits_close (isDigit : digits.all Char.isDigit) (small : value < twoTo 64) :
    ∃ used left, appendDigits value digits = (used, left) ∧ used < twoTo 64 ∧ left ≤ digits.length ∧
      Close 1 (used * 10 ^ left) (ofDigitChars 10 digits value) := by
  induction digits generalizing value with
  | nil =>
      refine ⟨value, 0, rfl, small, le_rfl, ?_⟩
      rw [Nat.ofDigitChars_nil, pow_zero, mul_one]
      exact Close.of_error (by rw [sub_self, abs_zero]; positivity) (Nat.cast_nonneg _)
  | cons digit digits ih =>
      by_cases fits : 10 * value + (digit.toNat - '0'.toNat) < twoTo 64
      · rw [List.all_cons, Bool.and_eq_true] at isDigit
        obtain ⟨used, left, same, bounded, short, close⟩ := ih isDigit.2 fits
        rw [appendDigits_cons fits, Nat.ofDigitChars_cons]
        exact ⟨used, left, same, bounded, short.trans (Nat.le_succ _), close⟩
      · have large : 2 ^ 52 ≤ value := by
          have one := (Text.isDigit_bounds (List.all_eq_true.mp isDigit digit List.mem_cons_self)).2
          have bound : twoTo 64 = 18446744073709551616 := rfl
          change ¬ 10 * value + (digit.toNat - 48) < twoTo 64 at fits
          omega
        refine ⟨value, digits.length + 1, ?_, small, le_rfl, leading_close isDigit large⟩
        simp only [appendDigits, append_digitValue, fits, if_false]

/-!
## Powers of ten
-/

theorem tenTo_ordinary {places : ℕ} (few : places ≤ 60) : Ordinary (10 ^ places : ℚ) := by
  have ordinary :=
    Ordinary.of_natCast (tenTo_pos places)
      ((Nat.pow_le_pow_right (by decide) few).trans (by decide))
  rwa [tenTo_cast] at ordinary

/-- A fraction is the quotient of two doubles, rounded. -/
theorem scaled?_eq {places : ℕ} {numerator divisor : Double}
    (first : nearestTo? value = some numerator) (second : nearestTo? (10 ^ places) = some divisor)
    (some : numerator.significand ≠ 0) (nonzero : divisor.significand ≠ 0) (positive : 0 < places)
    (few : places ≤ 60) :
    scaled? value (-places : ℤ) = nearestTo? (numerator.toRat / divisor.toRat) := by
  have zero : numerator.isZero = false := by simpa [Double.isZero] using some
  have negative : (-places : ℤ) < 0 := by omega
  have moderate : places ≤ 308 := few.trans (by decide)
  have found : Double.ofNat? value = numerator := (Double.ofNat?_eq _).trans first
  have foundDivisor : Double.ofNat? (tenTo places) = divisor := by
    rw [Double.ofNat?_eq, tenTo_cast, second]
  rw [scaled?, found]
  simp only [Option.bind_eq_bind, Option.bind_some, zero, Bool.false_eq_true, if_false, negative,
    if_true, Int.natAbs_neg, Int.natAbs_natCast]
  simp only [divideBy, moderate, if_true, foundDivisor, Option.bind_eq_bind, Option.bind_some]
  exact Double.div?_eq _ nonzero

theorem scaled?_exact {places : ℕ} (some : 0 < value) (small : value < 2 ^ 53)
    (positive : 0 < places) (few : places ≤ 22) :
    scaled? value (-places : ℤ) = nearestTo? (value / 10 ^ places) := by
  have ordinary := Ordinary.of_natCast some (small.le.trans (by decide))
  have divisorOrdinary := tenTo_ordinary (few.trans (by decide : 22 ≤ 60))
  obtain ⟨numerator, first⟩ := ordinary.exists_nearest
  obtain ⟨divisor, second⟩ := divisorOrdinary.exists_nearest
  have five : 5 ^ places < 2 ^ 53 := (Nat.pow_le_pow_right (by decide) few).trans_lt (by decide)
  have factors : (10 : ℚ) ^ places = (5 ^ places : ℕ) * 2 ^ (places : ℤ) := by
    rw [zpow_natCast]
    push_cast
    rw [← mul_pow]
    norm_num
  rw [scaled?_eq first second (ordinary.normal first).significand_ne_zero
    (divisorOrdinary.normal second).significand_ne_zero positive (few.trans (by decide)),
    ordinary.exact small (show (value : ℚ) = value * 2 ^ (0 : ℤ) by rw [zpow_zero, mul_one]) first,
    divisorOrdinary.exact five factors second]

theorem scaled?_close {places : ℕ} (some : 0 < value) (small : value < twoTo 64)
    (positive : 0 < places) (few : places ≤ 60) :
    ∃ quotient, scaled? value (-places : ℤ) = nearestTo? quotient ∧
      Close 2 (value / 10 ^ places) quotient := by
  have ordinary := Ordinary.of_natCast some (small.le.trans (by decide))
  have divisorOrdinary := tenTo_ordinary few
  obtain ⟨numerator, first⟩ := ordinary.exists_nearest
  obtain ⟨divisor, second⟩ := divisorOrdinary.exists_nearest
  have normal := ordinary.normal first
  have divisorNormal := divisorOrdinary.normal second
  exact ⟨_, scaled?_eq first second normal.significand_ne_zero divisorNormal.significand_ne_zero
    positive few, (ordinary.close first).div (divisorOrdinary.close second) ordinary.positive
    normal.toRat_pos divisorOrdinary.positive divisorNormal.toRat_pos⟩

/-!
## Payable numbers
-/

namespace Numeral

variable {numeral : Numeral}

theorem Payable.moderate (payable : numeral.Payable) {roundings : ℕ} {near : ℚ}
    (close : Close roundings numeral.toRat near) (few : roundings ≤ 5) :
    1 / 10 ^ 5 ≤ near ∧ near ≤ 10 ^ 17 := by
  have error := abs_le.mp (close.error few payable.positive.le)
  have lower := payable.le_toRat
  have upper := payable.toRat_le
  rw [moneyScale] at lower
  constructor <;> linarith

theorem ordinary_of_moderate {value : ℚ} (moderate : 1 / 10 ^ 5 ≤ value ∧ value ≤ 10 ^ 17) :
    Ordinary value where
  lower := by
    refine le_trans ?_ moderate.1
    calc (2 : ℚ) ^ (-1000 : ℤ) ≤ 2 ^ (-17 : ℤ) := zpow_le_zpow_right₀ one_le_two (by norm_num)
      _ ≤ 1 / 10 ^ 5 := by norm_num
  upper := by
    refine moderate.2.trans ?_
    calc (10 : ℚ) ^ 17 ≤ 2 ^ (57 : ℤ) := by norm_num
      _ ≤ 2 ^ (1000 : ℤ) := zpow_le_zpow_right₀ one_le_two (by norm_num)

/-- A double that is close to a payable number is read as the decimal of its shortest text, one
rounding further away. -/
theorem Payable.read_real (payable : numeral.Payable) {roundings : ℕ} {double : Double}
    (normal : double.Normal) (close : Close roundings numeral.toRat double.toRat)
    (few : roundings + 1 ≤ 5) :
    ∃ value, Decimal.ofNumber? (.real false double) = some value ∧
      value.toRat = (double.shortest .upper).toRat ∧
      |value.toRat - numeral.toRat| ≤ numeral.toRat / 2 ^ 49 := by
  have moderate := payable.moderate close (by omega)
  have lower : (10 : ℚ) ^ (-11 : ℤ) ≤ double.toRat := le_trans (by norm_num) moderate.1
  obtain ⟨value, found, same⟩ := Decimal.readPlain_shortest .upper normal lower moderate.2
  have shortest := normal.close (Double.Digits.toRat_nonneg _) (normal.shortest_spec .upper).1
  refine ⟨value, found, same, ?_⟩
  rw [same]
  exact (close.trans shortest).error few payable.positive.le

theorem Payable.whole_le (payable : numeral.Payable) :
    ofDigitChars 10 numeral.whole 0 ≤ 10 ^ 16 := by
  have unit : (0 : ℚ) < 10 ^ numeral.fraction.length := by positivity
  have bounded := payable.toRat_le
  rw [toRat, div_le_iff₀ unit] at bounded
  have head : 10 ^ numeral.fraction.length * ofDigitChars 10 numeral.whole 0 ≤ numeral.number := by
    rw [number, Nat.ofDigitChars_append,
      Nat.ofDigitChars_eq_ofDigitChars_zero (l := numeral.fraction)]
    exact Nat.le_add_right _ _
  have cast : (10 : ℚ) ^ numeral.fraction.length * ofDigitChars 10 numeral.whole 0 ≤
      numeral.number := by exact_mod_cast head
  have whole : (ofDigitChars 10 numeral.whole 0 : ℚ) ≤ 10 ^ 16 := by
    refine le_of_mul_le_mul_left ?_ unit
    linarith
  exact_mod_cast whole

theorem parts_value? (fractional : numeral.fraction ≠ []) {used left : ℕ} {double : Double}
    (whole : ofDigitChars 10 numeral.whole 0 < twoTo 64)
    (digits : appendDigits (ofDigitChars 10 numeral.whole 0) numeral.fraction = (used, left))
    (found : scaled? used (-(numeral.fraction.length - left : ℕ) : ℤ) = some double) :
    numeral.parts.value? = some (.real false double) := by
  have point : (!numeral.fraction.isEmpty) = true := by simpa using fractional
  simp only [parts, NumberText.value?, appendDigits_eq whole, digits, point, not_true_eq_false,
    false_and, and_false, if_false, Option.getD_none, Nat.cast_zero, zero_sub, add_zero, found]
  rfl

/-- The digits that are used of a fraction, and the places after the point among them. -/
theorem Payable.used (payable : numeral.Payable) (fractional : numeral.fraction ≠ []) :
    ∃ used places, appendDigits (ofDigitChars 10 numeral.whole 0) numeral.fraction =
      (used, numeral.fraction.length - places) ∧
      used < twoTo 64 ∧ 0 < places ∧ places ≤ numeral.fraction.length ∧
        Close 1 numeral.toRat (used / 10 ^ places) := by
  -- The whole part is small enough for the first digit after the point to be used in any case.
  have whole := payable.whole_le
  obtain ⟨digit, more, fraction⟩ := List.exists_cons_of_ne_nil fractional
  have isDigit := numeral.fractionDigits
  rw [fraction, List.all_cons, Bool.and_eq_true] at isDigit
  have fits : 10 * ofDigitChars 10 numeral.whole 0 + (digit.toNat - '0'.toNat) < twoTo 64 := by
    have one := (Text.isDigit_bounds isDigit.1).2
    have bound : twoTo 64 = 18446744073709551616 := rfl
    change 10 * ofDigitChars 10 numeral.whole 0 + (digit.toNat - 48) < twoTo 64
    omega
  obtain ⟨used, left, digits, bounded, short, close⟩ := appendDigits_close isDigit.2 fits
  rw [← Nat.ofDigitChars_cons, ← fraction, ← Nat.ofDigitChars_append, ← number] at close
  have length : numeral.fraction.length = more.length + 1 := by rw [fraction, List.length_cons]
  obtain ⟨places, split⟩ : ∃ places, numeral.fraction.length = places + left :=
    ⟨numeral.fraction.length - left, by omega⟩
  have cut : numeral.fraction.length - places = left := by omega
  have positive : (0 : ℚ) < numeral.number := by exact_mod_cast payable.number_pos
  have nonneg : (0 : ℚ) ≤ used * 10 ^ left := by positivity
  have some : (0 : ℚ) < used * 10 ^ left := by
    refine nonneg.lt_of_ne fun zero => ?_
    have upper := close.upper
    rw [← zero, zero_mul] at upper
    linarith
  have quotient :=
    close.symm.div (Close.refl (10 ^ numeral.fraction.length)) positive
      some (by positivity) (by positivity)
  have reduced : (used * 10 ^ left / 10 ^ numeral.fraction.length : ℚ) = used / 10 ^ places := by
    rw [split, pow_add]
    field_simp
  rw [reduced] at quotient
  refine ⟨used, places, ?_, bounded, by omega, by omega, quotient⟩
  rw [cut, fraction, appendDigits_cons fits, digits]

/-- Every payable number with a point is read, as a number that is off by at most one part in
`2 ^ 49`. -/
theorem Payable.value_close (payable : numeral.Payable) (fractional : numeral.fraction ≠ []) :
    ∃ double value, numeral.parts.value? = some (.real false double) ∧
      Decimal.ofNumber? (.real false double) = some value ∧
      |value.toRat - numeral.toRat| ≤ numeral.toRat / 2 ^ 49 := by
  obtain ⟨used, places, digits, bounded, positive, short, close⟩ := payable.used fractional
  have least := (payable.moderate close (by norm_num)).1
  have some : 0 < used := by
    refine Nat.pos_of_ne_zero fun zero => ?_
    rw [zero, Nat.cast_zero, zero_div] at least
    norm_num at least
  have few : places ≤ 60 := by
    by_contra long
    have size : (used : ℚ) < 2 ^ 64 := by exact_mod_cast bounded
    have large : (10 : ℚ) ^ 61 ≤ 10 ^ places := pow_le_pow_right₀ (by norm_num) (by omega)
    rw [div_le_div_iff₀ (by positivity) (by positivity)] at least
    linarith
  -- Of the five roundings one is for the digits that are left over, two are for the operands, one
  -- is for the quotient and one for its text.
  obtain ⟨quotient, scaled, operands⟩ := scaled?_close some bounded positive few
  have three := close.trans operands
  have ordinary := ordinary_of_moderate (payable.moderate three (by norm_num))
  obtain ⟨double, rounded⟩ := ordinary.exists_nearest
  obtain ⟨value, found, -, error⟩ :=
    payable.read_real (ordinary.normal rounded) (three.trans (ordinary.close rounded)) le_rfl
  have cut : numeral.fraction.length - (numeral.fraction.length - places) = places := by omega
  have small := payable.whole_le.trans_lt (by decide : 10 ^ 16 < twoTo 64)
  exact ⟨double, value, parts_value? fractional small digits (by rw [cut, scaled, rounded]),
    found, error⟩

theorem Payable.places_le (payable : numeral.Payable) (few : numeral.number < 2 ^ 52) :
    numeral.fraction.length ≤ 22 := by
  by_contra long
  have least := payable.le_toRat
  have size : (numeral.number : ℚ) < 2 ^ 52 := by exact_mod_cast few
  have large : (10 : ℚ) ^ 23 ≤ 10 ^ numeral.fraction.length :=
    pow_le_pow_right₀ (by norm_num) (by omega)
  rw [toRat, moneyScale, div_le_div_iff₀ (by positivity) (by positivity)] at least
  linarith

theorem Payable.value_exact (payable : numeral.Payable) (fractional : numeral.fraction ≠ [])
    (few : numeral.number < 2 ^ 52) :
    ∃ double value, numeral.parts.value? = some (.real false double) ∧
      Decimal.ofNumber? (.real false double) = some value ∧
      value.toRat = numeral.toRat := by
  have all : ofDigitChars 10 numeral.fraction (ofDigitChars 10 numeral.whole 0) =
      numeral.number := by
    rw [number, Nat.ofDigitChars_append]
  have small : numeral.number < twoTo 64 := few.trans (by decide)
  have digits := appendDigits_eq (all ▸ small)
  rw [all] at digits
  have ordinary := ordinary_of_moderate (payable.moderate (Close.refl _) (by norm_num))
  obtain ⟨double, rounded⟩ := ordinary.exists_nearest
  have scaled :=
    scaled?_exact payable.number_pos (few.trans (by norm_num))
      (List.length_pos_of_ne_nil fractional) (payable.places_le few)
  have normal := ordinary.normal rounded
  obtain ⟨value, found, shortest, -⟩ :=
    payable.read_real normal (ordinary.close rounded) (by norm_num)
  have denoted : Double.Digits.toRat ⟨numeral.number, -numeral.fraction.length⟩ =
      numeral.toRat := by
    rw [Double.Digits.toRat, toRat, zpow_neg, zpow_natCast, div_eq_mul_inv]
  have nearest : Nearest ⟨numeral.number, -numeral.fraction.length⟩ double :=
    ⟨few, denoted ▸ rounded, normal⟩
  refine ⟨double, value, parts_value? fractional (payable.whole_le.trans_lt (by decide)) digits
    (by rw [Nat.sub_zero, scaled]; exact rounded), found, ?_⟩
  rw [shortest, nearest.shortest_eq payable.number_pos.ne', denoted]

theorem Payable.value_whole (payable : numeral.Payable) (integral : numeral.fraction = []) :
    ∃ value, numeral.parts.value? = some (.natural numeral.number) ∧
      Decimal.ofNumber? (.natural numeral.number) = some value ∧
      value.toRat = numeral.toRat := by
  have same : numeral.toRat = numeral.number := by
    rw [toRat, integral, List.length_nil, pow_zero, div_one]
  have whole : ofDigitChars 10 numeral.whole 0 = numeral.number := by
    rw [number, integral, List.append_nil]
  have size : numeral.number ≤ 10 ^ 16 := whole ▸ payable.whole_le
  obtain ⟨value, found, exact⟩ := Decimal.ofParts?_toRat
    (show numeral.number < mantissaBound from size.trans_lt (by decide)) (show 0 ≤ 28 by decide)
  refine ⟨value, ?_, found, ?_⟩
  · simp only [parts, NumberText.value?, appendDigits_eq (whole ▸ size.trans_lt (by decide)), whole,
      integral]
    rfl
  · rw [exact, same, pow_zero, div_one]

theorem Payable.read_number (payable : numeral.Payable) :
    ∃ number value, numeral.parts.value? = some number ∧ Decimal.ofNumber? number = some value ∧
      |value.toRat - numeral.toRat| ≤ numeral.toRat / 2 ^ 49 ∧
      (numeral.fraction = [] ∨ numeral.number < 2 ^ 52 → value.toRat = numeral.toRat) := by
  by_cases integral : numeral.fraction = []
  · obtain ⟨value, read, found, same⟩ := payable.value_whole integral
    have positive := payable.positive
    exact ⟨_, value, read, found, by rw [same, sub_self, abs_zero]; positivity, fun _ => same⟩
  · obtain ⟨double, value, read, found, close⟩ := payable.value_close integral
    refine ⟨_, value, read, found, close, fun short => ?_⟩
    obtain ⟨other, exact, otherRead, otherFound, same⟩ :=
      payable.value_exact integral (short.resolve_left integral)
    rw [read] at otherRead
    cases otherRead
    rw [found] at otherFound
    cases otherFound
    exact same

end Numeral

end Passbook.Json
