import Passbook.Proofs.Decimal.Nearest

/-!
Numbers that agree up to some roundings. Each rounding to a double changes a number by at most one
part in `2 ^ 52`, and the factors multiply, so what a chain of conversions and a division does to a
number can be counted.
-/

set_option autoImplicit false

namespace Passbook

def rounding : ℚ := 1 + 1 / 2 ^ 52

theorem rounding_pos : 0 < rounding := by
  norm_num [rounding]

/-- Whether two numbers agree up to some roundings, in either direction. -/
structure Close (roundings : ℕ) (one two : ℚ) : Prop where
  upper : two ≤ one * rounding ^ roundings
  lower : one ≤ two * rounding ^ roundings

namespace Close

variable {first second : ℕ} {one two three four : ℚ}

theorem symm (close : Close first one two) : Close first two one := ⟨close.lower, close.upper⟩

theorem trans (close : Close first one two) (next : Close second two three) :
    Close (first + second) one three where
  upper := by
    have factor := pow_pos rounding_pos second
    calc three ≤ two * rounding ^ second := next.upper
      _ ≤ one * rounding ^ first * rounding ^ second := by gcongr; exact close.upper
      _ = one * rounding ^ (first + second) := by ring
  lower := by
    have factor := pow_pos rounding_pos first
    calc one ≤ two * rounding ^ first := close.lower
      _ ≤ three * rounding ^ second * rounding ^ first := by gcongr; exact next.lower
      _ = three * rounding ^ (first + second) := by ring

private theorem div_le (positive : 0 < two) (divisor : 0 < three) (other : 0 < four)
    (upper : one ≤ two * rounding ^ first) (lower : four ≤ three * rounding ^ second) :
    one / three ≤ two / four * rounding ^ (first + second) := by
  have factor := pow_pos rounding_pos first
  rw [div_mul_eq_mul_div, div_le_div_iff₀ divisor other]
  calc one * four ≤ two * rounding ^ first * four := by gcongr
    _ ≤ two * rounding ^ first * (three * rounding ^ second) := by gcongr
    _ = two * rounding ^ (first + second) * three := by ring

theorem div (close : Close first one two) (divisors : Close second three four) (one_pos : 0 < one)
    (two_pos : 0 < two) (three_pos : 0 < three) (four_pos : 0 < four) :
    Close (first + second) (one / three) (two / four) :=
  ⟨div_le one_pos four_pos three_pos close.upper divisors.lower,
    div_le two_pos three_pos four_pos close.lower divisors.upper⟩

theorem refl (one : ℚ) : Close 0 one one := ⟨by rw [pow_zero, mul_one], by rw [pow_zero, mul_one]⟩

theorem of_error (error : |one - two| ≤ one / 2 ^ 53) (nonneg : 0 ≤ one) : Close 1 one two := by
  have bounds := abs_le.mp error
  constructor <;> rw [pow_one, rounding] <;> linarith

theorem factor_le (few : first ≤ 5) : rounding ^ first ≤ 1 + 1 / 2 ^ 49 := by
  have larger : (1 : ℚ) ≤ rounding := by norm_num [rounding]
  refine (pow_le_pow_right₀ larger few).trans ?_
  norm_num [rounding]

theorem nonneg (close : Close first one two) (one_nonneg : 0 ≤ one) : 0 ≤ two :=
  nonneg_of_mul_nonneg_left (one_nonneg.trans close.lower) (pow_pos rounding_pos _)

/-- Up to five roundings change a number by at most one part in `2 ^ 49`. -/
theorem error (close : Close first one two) (few : first ≤ 5) (nonneg : 0 ≤ one) :
    |two - one| ≤ one / 2 ^ 49 := by
  have factor := factor_le few
  have two_nonneg := close.nonneg nonneg
  have upper : two ≤ one * (1 + 1 / 2 ^ 49) := close.upper.trans (by gcongr)
  have lower : one ≤ two * (1 + 1 / 2 ^ 49) := close.lower.trans (by gcongr)
  rw [abs_le]
  constructor <;> linarith

end Close

namespace Double

variable {value : ℚ} {found : Double}

/-- Rounding to a double is one rounding. -/
theorem Ordinary.close (ordinary : Ordinary value) (read : nearestTo? value = some found) :
    Close 1 value found.toRat := by
  have grid := ordinary.grid_le
  exact Close.of_error ((nearestTo?_error_grid ordinary.positive read).trans (by linarith))
    ordinary.positive.le

/-- What rounds to a double is one rounding away from it. -/
theorem Normal.close (normal : found.Normal) (nonneg : 0 ≤ value)
    (read : nearestTo? value = some found) :
    Close 1 found.toRat value := by
  have step := normal.le_toRat
  have error := nearestTo?_error nonneg read
  rw [abs_sub_comm] at error
  exact Close.of_error (error.trans (by linarith)) normal.toRat_pos.le

end Double

end Passbook
