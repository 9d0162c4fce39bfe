import Passbook.Proofs.Decimal.Plain

/-!
Columns of numbers with a declared precision and scale. Such a column rounds what it is given to its
scale, halves away from zero, and keeps every number with so many fractional digits; it refuses what
then has too many digits before the point. Numbers that need no more digits than declared come back
unchanged.
-/

set_option autoImplicit false

namespace Passbook.Database

/-- A number rounded to so many places, halves away from zero. -/
def rounded (places : ℕ) (value : ℚ) : ℚ :=
  (if value < 0 then -1 else 1) * (⌊|value| * 10 ^ places + 1 / 2⌋₊ / 10 ^ places)

/-- How a column keeps numbers that is declared with so many digits in all, and so many of them
after the point. -/
structure NumericColumn (precision scale : ℕ) (store : Decimal → Option Decimal) : Prop where
  rounds : ∀ {value stored}, store value = some stored → stored.toRat = rounded scale value.toRat
  pads : ∀ {value stored}, store value = some stored → stored.scale = scale
  refuses_iff : ∀ {value}, store value = none ↔
    10 ^ (precision - scale) ≤ |rounded scale value.toRat|

variable {places precision scale : ℕ} {store : Decimal → Option Decimal}

theorem rounded_of_whole {value : ℚ} {units : ℤ} (whole : value * 10 ^ places = units) :
    rounded places value = value := by
  have size : |value| * 10 ^ places = units.natAbs := by
    rw [← abs_of_pos (by positivity : (0 : ℚ) < 10 ^ places), ← abs_mul, whole,
      Nat.cast_natAbs, Int.cast_abs]
  have kept : (units.natAbs : ℚ) / 10 ^ places = |value| := by
    rw [← size]
    field_simp
  rw [rounded, size, Decimal.floor_add_half, kept]
  split
  · next below => rw [abs_of_neg below, neg_one_mul, neg_neg]
  · next above => rw [abs_of_nonneg (not_lt.mp above), one_mul]

/-- A number with few enough digits on either side of the point is kept as it is. -/
theorem NumericColumn.holds (column : NumericColumn precision scale store) {value : Decimal}
    {units : ℤ} (whole : value.toRat * 10 ^ scale = units)
    (small : |value.toRat| < 10 ^ (precision - scale)) :
    ∃ stored, store value = some stored ∧ stored.toRat = value.toRat ∧ stored.scale = scale := by
  have exact := rounded_of_whole whole
  cases kept : store value with
  | none =>
      have large := column.refuses_iff.mp kept
      rw [exact] at large
      exact absurd small (not_lt.mpr large)
  | some stored => exact ⟨stored, rfl, (column.rounds kept).trans exact, column.pads kept⟩

/-!
## A column
-/

/-- The units of so many places that are nearest to the size of a decimal, a half rounded up. -/
def unitsOf (places : ℕ) (value : Decimal) : ℕ :=
  (2 * value.mantissa * tenTo places + tenTo value.scale) / (2 * tenTo value.scale)

/-- A column that is declared with a precision and a scale. -/
def numericColumn (precision scale : ℕ) (value : Decimal) : Option Decimal :=
  if unitsOf scale value < tenTo precision then
    Decimal.ofParts? value.negative (unitsOf scale value) scale else none

theorem floor_unitsOf (places : ℕ) (value : Decimal) :
    ⌊|value.toRat| * 10 ^ places + 1 / 2⌋₊ = unitsOf places value := by
  have quotient : |value.toRat| * 10 ^ places + 1 / 2 =
      ((2 * value.mantissa * tenTo places + tenTo value.scale : ℕ) : ℚ) /
        (2 * tenTo value.scale : ℕ) := by
    rw [Decimal.abs_toRat]
    push_cast [tenTo_cast]
    field_simp
  rw [quotient, Nat.floor_div_eq_div, unitsOf]

theorem abs_rounded (places : ℕ) (value : Decimal) :
    |rounded places value.toRat| = unitsOf places value / 10 ^ places := by
  rw [rounded, floor_unitsOf, abs_mul,
    abs_of_nonneg (by positivity : (0 : ℚ) ≤ unitsOf places value / 10 ^ places)]
  split <;> simp

/-- The sign of a zero does not matter, for nothing is nearer to it than zero. -/
theorem rounded_toRat (places : ℕ) (value : Decimal) :
    rounded places value.toRat = (if value.negative then -1 else 1) *
      (unitsOf places value / 10 ^ places) := by
  rw [rounded, floor_unitsOf]
  by_cases zero : value.mantissa = 0
  · have none : unitsOf places value = 0 := by
      rw [unitsOf, zero, mul_zero, zero_mul, zero_add]
      exact Nat.div_eq_of_lt (by have := tenTo_pos value.scale; omega)
    rw [none, Nat.cast_zero, zero_div, mul_zero, mul_zero]
  · have unsigned : value.UnsignedZero := fun _ => zero
    simp only [unsigned.negative_iff]

theorem parts_of_numericColumn {value stored : Decimal}
    (found : numericColumn precision scale value = some stored) :
    Decimal.ofParts? value.negative (unitsOf scale value) scale = some stored := by
  rw [numericColumn] at found
  split at found
  · exact found
  · cases found

/-- Up to the digits that a decimal has room for, there are such columns. -/
theorem numericColumn_numeric (narrow : precision ≤ 28) (fits : scale ≤ precision) :
    NumericColumn precision scale (numericColumn precision scale) where
  rounds found := by
    rw [Decimal.toRat_ofParts? (parts_of_numericColumn found), rounded_toRat]
  pads found := (Decimal.parts_of_ofParts? (parts_of_numericColumn found)).2.2
  refuses_iff := by
    intro value
    have digits : (10 : ℚ) ^ (precision - scale) ≤ |rounded scale value.toRat| ↔
        tenTo precision ≤ unitsOf scale value := by
      rw [abs_rounded, le_div_iff₀ (by positivity), ← pow_add,
        Nat.sub_add_cancel fits, ← tenTo_cast, Nat.cast_le]
    have room : tenTo precision < mantissaBound :=
      (Nat.pow_le_pow_right (by decide) narrow).trans_lt (by decide)
    rw [digits, numericColumn]
    split
    · next small =>
        have kept : Decimal.ofParts? value.negative (unitsOf scale value) scale = some _ :=
          dif_pos ⟨small.trans room, fits.trans narrow⟩
        simp [kept, small]
    · next large => simp [not_lt.mp large]

end Passbook.Database
