import Mathlib.Algebra.Order.Field.Power
import Mathlib.Algebra.Order.Floor.Semifield
import Mathlib.Data.Int.Log
import Mathlib.Data.Rat.Floor
import Mathlib.Tactic.Positivity
import Passbook.Decimal.Binary
import Passbook.Proofs.Decimal.Exact

/-!
Doubles as rational numbers. Rounding a quotient depends only on the rational that it denotes, is
off by at most half a step of the grid, and is exact for every number that has a double. Nothing
here is about texts.
-/

set_option autoImplicit false

namespace Passbook

theorem twoTo_cast (power : ℕ) : (twoTo power : ℚ) = 2 ^ power := by
  change ((2 ^ power : ℕ) : ℚ) = 2 ^ power
  push_cast
  rfl

/-!
## Scales and logarithms
-/

theorem zpow_of_nonneg (base : ℚ) {power : ℤ} (nonneg : 0 ≤ power) :
    base ^ power = base ^ power.toNat := by
  rw [← zpow_natCast, Int.toNat_of_nonneg nonneg]

theorem zpow_of_neg (base : ℚ) {power : ℤ} (negative : ¬ 0 ≤ power) :
    base ^ power = (base ^ (-power).toNat)⁻¹ := by
  rw [← zpow_natCast, Int.toNat_of_nonneg (by omega), zpow_neg, inv_inv]

theorem log_eq {base : ℕ} {value : ℚ} {power : ℤ} (large : 1 < base)
    (lower : (base : ℚ) ^ power ≤ value) (upper : value < (base : ℚ) ^ (power + 1)) :
    Int.log base value = power := by
  have positive : 0 < value := (zpow_pos (by positivity) power).trans_le lower
  have least := (Int.zpow_le_iff_le_log large positive).mp lower
  have greatest := (Int.lt_zpow_iff_log_lt large positive).mp upper
  omega

theorem log_div {base numerator denominator high low : ℕ} (large : 1 < base)
    (high_le : base ^ high ≤ numerator) (lt_high : numerator < base ^ (high + 1))
    (low_le : base ^ low ≤ denominator) (lt_low : denominator < base ^ (low + 1)) :
    Int.log base (numerator / denominator : ℚ) =
      if (base : ℚ) ^ ((high : ℤ) - low) ≤ numerator / denominator then (high : ℤ) - low else
        (high : ℤ) - low - 1 := by
  have unit : (0 : ℚ) < base := by positivity
  have divisor : (0 : ℚ) < denominator := by exact_mod_cast (Nat.pow_pos (by omega)).trans_le low_le
  have high_le : (base : ℚ) ^ high ≤ numerator := by exact_mod_cast high_le
  have lt_high : (numerator : ℚ) < base ^ high * base := by
    exact_mod_cast (pow_succ base high) ▸ lt_high
  have low_le : (base : ℚ) ^ low ≤ denominator := by exact_mod_cast low_le
  have lt_low : (denominator : ℚ) < base ^ low * base := by
    exact_mod_cast (pow_succ base low) ▸ lt_low
  have difference : (base : ℚ) ^ ((high : ℤ) - low) = base ^ high / base ^ low := by
    rw [zpow_sub₀ unit.ne', zpow_natCast, zpow_natCast]
  have scaled : (0 : ℚ) < base ^ low := by positivity
  split
  · next reached =>
      refine log_eq large reached ?_
      rw [zpow_add_one₀ unit.ne', difference, div_mul_eq_mul_div, div_lt_div_iff₀ divisor scaled]
      calc (numerator : ℚ) * base ^ low < base ^ high * base * base ^ low := by gcongr
        _ ≤ base ^ high * base * denominator := by gcongr
  · next missed =>
      refine log_eq large ?_ (by rw [sub_add_cancel]; exact not_le.mp missed)
      rw [zpow_sub_one₀ unit.ne', difference, ← div_eq_mul_inv, div_div,
        div_le_div_iff₀ (by positivity) divisor]
      calc (base : ℚ) ^ high * denominator ≤ numerator * denominator := by gcongr
        _ ≤ numerator * (base ^ low * base) := by gcongr

/-!
## Rounding to whole numbers
-/

/-- The whole number nearest to a rational one; a half goes to the even neighbour. -/
def halfEven (value : ℚ) : ℕ :=
  if value - ⌊value⌋₊ < 1 / 2 then ⌊value⌋₊
  else if 1 / 2 < value - ⌊value⌋₊ then ⌊value⌋₊ + 1
  else ⌊value⌋₊ + ⌊value⌋₊ % 2

theorem roundHalfEven_eq (numerator : ℕ) {denominator : ℕ} (positive : 0 < denominator) :
    roundHalfEven numerator denominator = halfEven (numerator / denominator) := by
  have divisor : (0 : ℚ) < denominator := by exact_mod_cast positive
  have whole : ⌊(numerator : ℚ) / denominator⌋₊ = numerator / denominator :=
    Nat.floor_div_eq_div numerator denominator
  have rest : (numerator : ℚ) / denominator - (numerator / denominator : ℕ) =
      (numerator % denominator : ℕ) / denominator := by
    have split : (numerator : ℚ) = denominator * (numerator / denominator : ℕ) +
        (numerator % denominator : ℕ) := by
      exact_mod_cast (Nat.div_add_mod numerator denominator).symm
    rw [sub_eq_iff_eq_add, div_add' _ _ _ divisor.ne', div_left_inj' divisor.ne', split]
    ring
  have below : (numerator : ℚ) / denominator - (numerator / denominator : ℕ) < 1 / 2 ↔
      2 * (numerator % denominator) < denominator := by
    rw [rest, div_lt_div_iff₀ divisor two_pos, one_mul, mul_comm]
    exact_mod_cast Iff.rfl
  have above : 1 / 2 < (numerator : ℚ) / denominator - (numerator / denominator : ℕ) ↔
      denominator < 2 * (numerator % denominator) := by
    rw [rest, div_lt_div_iff₀ two_pos divisor, one_mul, mul_comm _ (2 : ℚ)]
    exact_mod_cast Iff.rfl
  simp only [roundHalfEven, halfEven, whole, below, above]

theorem halfEven_error {value : ℚ} (nonneg : 0 ≤ value) : |value - halfEven value| ≤ 1 / 2 := by
  have lower := Nat.floor_le nonneg
  have upper := Nat.lt_floor_add_one value
  have parity : ⌊value⌋₊ % 2 = 0 ∨ ⌊value⌋₊ % 2 = 1 := Nat.mod_two_eq_zero_or_one _
  rw [halfEven, abs_le]
  split
  · constructor <;> linarith
  · split
    · push_cast
      constructor <;> linarith
    · rcases parity with even | odd
      · rw [even, add_zero]
        constructor <;> linarith
      · rw [odd]
        push_cast
        constructor <;> linarith

theorem halfEven_eq {nearest : ℕ} {value : ℚ} (lower : (nearest : ℚ) ≤ value)
    (upper : value < nearest + 1 / 2) :
    halfEven value = nearest := by
  have floor : ⌊value⌋₊ = nearest := by
    rw [Nat.floor_eq_iff ((Nat.cast_nonneg _).trans lower)]
    exact ⟨lower, by linarith⟩
  rw [halfEven, floor, if_pos (by linarith)]

theorem halfEven_natCast (value : ℕ) : halfEven value = value :=
  halfEven_eq le_rfl (by linarith)

theorem le_halfEven {least : ℕ} {value : ℚ} (lower : (least : ℚ) ≤ value) :
    least ≤ halfEven value := by
  have floor : least ≤ ⌊value⌋₊ := Nat.le_floor lower
  rw [halfEven]
  split <;> [skip; split] <;> omega

theorem halfEven_le {greatest : ℕ} {value : ℚ} (nonneg : 0 ≤ value) (upper : value < greatest) :
    halfEven value ≤ greatest := by
  have floor : ⌊value⌋₊ < greatest := (Nat.floor_lt nonneg).mpr upper
  rw [halfEven]
  split <;> [skip; split] <;> omega

namespace Double

def toRat (value : Double) : ℚ := value.significand * 2 ^ value.exponent

theorem toRatio_pos (value : Double) : 0 < value.toRatio.2 := by
  rw [toRatio]
  split
  · exact Nat.one_pos
  · exact twoTo_pos _

theorem toRatio_ne_zero {value : Double} (nonzero : value.significand ≠ 0) :
    0 < value.toRatio.1 := by
  rw [toRatio]
  split
  · exact Nat.mul_pos (Nat.pos_of_ne_zero nonzero) (twoTo_pos _)
  · exact Nat.pos_of_ne_zero nonzero

theorem toRatio_eq (value : Double) : (value.toRatio.1 / value.toRatio.2 : ℚ) = value.toRat := by
  rw [toRat, toRatio]
  split
  · next whole =>
      rw [zpow_of_nonneg 2 whole]
      push_cast
      rw [twoTo_cast, div_one]
  · next fraction =>
      rw [zpow_of_neg 2 fraction, twoTo_cast, div_eq_mul_inv]

/-!
## The nearest double
-/

/-- The exponent of the grid on which a positive number is rounded. -/
def grid (value : ℚ) : ℤ := max leastExponent (Int.log 2 value - 52)

/-- The double nearest to a rational number, half to even; none when it is too large. -/
def nearestTo? (value : ℚ) : Option Double :=
  if value = 0 then some zero
  else
    let significand := halfEven (value / 2 ^ grid value)
    let rounded : Double :=
      if significand = 2 ^ 53 then ⟨2 ^ 52, grid value + 1⟩ else ⟨significand, grid value⟩
    if rounded.exponent ≤ greatestExponent then some rounded else none

private theorem scaled_iff {numerator denominator : ℕ} (positive : 0 < denominator) (estimate : ℤ) :
    (if 0 ≤ estimate then decide (numerator < denominator * twoTo (estimate.toNat + 52))
      else decide (numerator * twoTo (-estimate).toNat < denominator * twoTo 52)) = true ↔
    (numerator / denominator : ℚ) < 2 ^ (estimate + 52) := by
  have divisor : (0 : ℚ) < denominator := by exact_mod_cast positive
  rw [div_lt_iff₀ divisor, zpow_add₀ two_ne_zero]
  split
  · next whole =>
      rw [decide_eq_true_iff, zpow_of_nonneg 2 whole, ← Nat.cast_lt (α := ℚ)]
      push_cast
      rw [twoTo_cast, pow_add, mul_comm]
      rfl
  · next fraction =>
      rw [decide_eq_true_iff, zpow_of_neg 2 fraction, ← Nat.cast_lt (α := ℚ)]
      push_cast
      rw [twoTo_cast, twoTo_cast, mul_assoc, inv_mul_eq_div, lt_div_iff₀ (by positivity),
        mul_comm (denominator : ℚ)]
      rfl

theorem gridExponent_eq {numerator denominator : ℕ} (nonzero : 0 < numerator)
    (positive : 0 < denominator) :
    gridExponent numerator denominator = grid (numerator / denominator) := by
  have log := log_div (show 1 < 2 by norm_num) (Nat.log2_self_le nonzero.ne') Nat.lt_log2_self
    (Nat.log2_self_le positive.ne') Nat.lt_log2_self
  push_cast at log
  rw [gridExponent, grid, log]
  simp only [scaled_iff positive, sub_add_cancel]
  congr 1
  by_cases reached : (2 : ℚ) ^ ((numerator.log2 : ℤ) - denominator.log2) ≤ numerator / denominator
  · rw [if_pos reached, if_neg (not_lt.mpr reached)]
  · rw [if_neg reached, if_pos (not_le.mp reached)]
    ring

theorem onGrid_eq (numerator : ℕ) {denominator : ℕ} (positive : 0 < denominator) (exponent : ℤ) :
    onGrid numerator denominator exponent = halfEven (numerator / denominator / 2 ^ exponent) := by
  rw [onGrid]
  split
  · next whole =>
      rw [zpow_of_nonneg 2 whole, roundHalfEven_eq _ (Nat.mul_pos positive (twoTo_pos _))]
      push_cast
      rw [twoTo_cast, div_div]
  · next fraction =>
      rw [zpow_of_neg 2 fraction, roundHalfEven_eq _ positive]
      push_cast
      rw [twoTo_cast, div_inv_eq_mul, div_mul_eq_mul_div]

/-- Rounding a quotient depends only on the number that it denotes. -/
theorem nearest?_eq (numerator : ℕ) {denominator : ℕ} (positive : 0 < denominator) :
    nearest? numerator denominator = nearestTo? (numerator / denominator) := by
  have divisor : (denominator : ℚ) ≠ 0 := by exact_mod_cast positive.ne'
  rw [nearest?, nearestTo?]
  by_cases empty : numerator = 0
  · simp [empty]
  · have nonzero : (numerator / denominator : ℚ) ≠ 0 :=
      div_ne_zero (by exact_mod_cast empty) divisor
    rw [if_neg empty, if_neg nonzero, gridExponent_eq (Nat.pos_of_ne_zero empty) positive]
    simp only [onGrid_eq _ positive]
    rfl

variable {value other : ℚ} {found : Double}

theorem two_zpow_pos (power : ℤ) : (0 : ℚ) < 2 ^ power := zpow_pos two_pos power

/-- What a positive number is rounded to. A significand that outgrows the grid moves to the next one
and keeps its value. -/
theorem nearestTo?_cases (positive : 0 < value) (read : nearestTo? value = some found) :
    halfEven (value / 2 ^ grid value) ≠ 2 ^ 53 ∧
      found = ⟨halfEven (value / 2 ^ grid value), grid value⟩ ∨
      halfEven (value / 2 ^ grid value) = 2 ^ 53 ∧ found = ⟨2 ^ 52, grid value + 1⟩ := by
  rw [nearestTo?, if_neg positive.ne'] at read
  by_cases carried : halfEven (value / 2 ^ grid value) = 2 ^ 53
  · simp only [carried, if_true, Option.ite_none_right_eq_some, Option.some.injEq] at read
    exact .inr ⟨carried, read.2.symm⟩
  · simp only [carried, if_false, Option.ite_none_right_eq_some, Option.some.injEq] at read
    exact .inl ⟨carried, read.2.symm⟩

theorem toRat_of_nearestTo? (positive : 0 < value) (read : nearestTo? value = some found) :
    found.toRat = halfEven (value / 2 ^ grid value) * 2 ^ grid value := by
  rcases nearestTo?_cases positive read with ⟨-, rfl⟩ | ⟨carried, rfl⟩
  · rfl
  · rw [toRat, carried, zpow_add_one₀ two_ne_zero]
    push_cast
    ring

theorem grid_le_exponent (positive : 0 < value) (read : nearestTo? value = some found) :
    grid value ≤ found.exponent := by
  rcases nearestTo?_cases positive read with ⟨-, rfl⟩ | ⟨-, rfl⟩
  · exact le_rfl
  · exact (lt_add_one _).le

theorem nearestTo?_error_grid (positive : 0 < value) (read : nearestTo? value = some found) :
    |value - found.toRat| ≤ 2 ^ grid value / 2 := by
  have step := two_zpow_pos (grid value)
  have rounded := halfEven_error (div_nonneg positive.le step.le)
  have split : value - found.toRat = (value / 2 ^ grid value - halfEven (value / 2 ^ grid value)) *
      2 ^ grid value := by
    rw [toRat_of_nearestTo? positive read, sub_mul, div_mul_cancel₀ _ step.ne']
  rw [split, abs_mul, abs_of_pos step]
  calc |value / 2 ^ grid value - halfEven (value / 2 ^ grid value)| * 2 ^ grid value
      ≤ 1 / 2 * 2 ^ grid value := by gcongr
    _ = 2 ^ grid value / 2 := by ring

/-- A number is at most half a step away from the double nearest to it. -/
theorem nearestTo?_error (nonneg : 0 ≤ value) (read : nearestTo? value = some found) :
    |value - found.toRat| ≤ 2 ^ found.exponent / 2 := by
  rcases nonneg.eq_or_lt with rfl | positive
  · rw [nearestTo?, if_pos rfl, Option.some.injEq] at read
    subst read
    norm_num [toRat, zero]
  · refine (nearestTo?_error_grid positive read).trans ?_
    gcongr
    · exact one_le_two
    · exact grid_le_exponent positive read

/-- Numbers that round to the same double are at most one step apart. -/
theorem nearestTo?_apart (nonneg : 0 ≤ value) (other_nonneg : 0 ≤ other)
    (read : nearestTo? value = some found) (other_read : nearestTo? other = some found) :
    |value - other| ≤ 2 ^ found.exponent := by
  have first := abs_le.mp (nearestTo?_error nonneg read)
  have second := abs_le.mp (nearestTo?_error other_nonneg other_read)
  rw [abs_le]
  constructor <;> linarith

/-!
## Numbers of ordinary size
-/

/-- Whether a number is far from the smallest and from the largest double. -/
structure Ordinary (value : ℚ) : Prop where
  lower : (2 : ℚ) ^ (-1000 : ℤ) ≤ value
  upper : value ≤ (2 : ℚ) ^ (1000 : ℤ)

theorem Ordinary.positive (ordinary : Ordinary value) : 0 < value :=
  (two_zpow_pos _).trans_le ordinary.lower

theorem Ordinary.log (ordinary : Ordinary value) :
    -1000 ≤ Int.log 2 value ∧ Int.log 2 value ≤ 1000 := by
  constructor
  · exact (Int.zpow_le_iff_le_log one_lt_two ordinary.positive).mp
      (by exact_mod_cast ordinary.lower)
  · have below : Int.log 2 value < 1000 + 1 :=
      (Int.lt_zpow_iff_log_lt one_lt_two ordinary.positive).mp
        (ordinary.upper.trans_lt (zpow_lt_zpow_right₀ one_lt_two (lt_add_one _)))
    omega

theorem Ordinary.grid_eq (ordinary : Ordinary value) : grid value = Int.log 2 value - 52 := by
  have log := ordinary.log
  simp only [grid, leastExponent]
  omega

theorem Ordinary.grid_le (ordinary : Ordinary value) : 2 ^ 52 * 2 ^ grid value ≤ value := by
  have lower := Int.zpow_log_le_self (b := 2) one_lt_two ordinary.positive
  rw [ordinary.grid_eq, ← zpow_natCast, ← zpow_add₀ two_ne_zero]
  push_cast at lower ⊢
  rwa [add_sub_cancel]

theorem Ordinary.exists_nearest (ordinary : Ordinary value) :
    ∃ found, nearestTo? value = some found := by
  have log := ordinary.log
  rw [nearestTo?, if_neg ordinary.positive.ne', ordinary.grid_eq]
  refine ⟨_, if_pos ?_⟩
  split <;> simp only [greatestExponent] <;> omega

/-- Whether the significand of a double has all its fifty-three bits, at an exponent in range. -/
structure Normal (value : Double) : Prop where
  full : 2 ^ 52 ≤ value.significand
  bounded : value.significand < 2 ^ 53
  least : leastExponent ≤ value.exponent
  greatest : value.exponent ≤ greatestExponent

theorem Ordinary.normal (ordinary : Ordinary value) (read : nearestTo? value = some found) :
    found.Normal := by
  have log := ordinary.log
  have step := two_zpow_pos (grid value)
  have lower : ((2 ^ 52 : ℕ) : ℚ) ≤ value / 2 ^ grid value := by
    rw [le_div_iff₀ step]
    exact_mod_cast ordinary.grid_le
  have upper : value / 2 ^ grid value < ((2 ^ 53 : ℕ) : ℚ) := by
    have above : value < 2 ^ (Int.log 2 value + 1) := by
      exact_mod_cast Int.lt_zpow_succ_log_self one_lt_two value
    have scale : (2 : ℚ) ^ 53 * 2 ^ grid value = 2 ^ (Int.log 2 value + 1) := by
      rw [ordinary.grid_eq, ← zpow_natCast, ← zpow_add₀ two_ne_zero]
      congr 1
      omega
    rw [div_lt_iff₀ step, Nat.cast_pow, Nat.cast_two, scale]
    exact above
  have atLeast := le_halfEven lower
  have atMost := halfEven_le (div_nonneg ordinary.positive.le step.le) upper
  rcases nearestTo?_cases ordinary.positive read with ⟨small, rfl⟩ | ⟨-, rfl⟩
  · refine ⟨atLeast, Nat.lt_of_le_of_ne atMost small, ?_, ?_⟩ <;>
      simp only [ordinary.grid_eq, leastExponent, greatestExponent] <;> omega
  · refine ⟨le_rfl, by norm_num, ?_, ?_⟩ <;>
      simp only [ordinary.grid_eq, leastExponent, greatestExponent] <;> omega

theorem Normal.significand_ne_zero (normal : found.Normal) : found.significand ≠ 0 := by
  have full := normal.full
  omega

theorem Normal.toRat_pos (normal : found.Normal) : 0 < found.toRat :=
  mul_pos (by exact_mod_cast Nat.pos_of_ne_zero normal.significand_ne_zero) (two_zpow_pos _)

theorem Normal.le_toRat (normal : found.Normal) : 2 ^ 52 * 2 ^ found.exponent ≤ found.toRat := by
  have full : (2 : ℚ) ^ 52 ≤ found.significand := by exact_mod_cast normal.full
  have step := two_zpow_pos found.exponent
  rw [toRat]
  gcongr

theorem Normal.toRat_lt (normal : found.Normal) : found.toRat < 2 ^ 53 * 2 ^ found.exponent := by
  have bounded : (found.significand : ℚ) < 2 ^ 53 := by exact_mod_cast normal.bounded
  have step := two_zpow_pos found.exponent
  rw [toRat]
  gcongr

/-- A number that is less than half a step above a double is rounded to it. -/
theorem Normal.nearestTo?_eq (normal : found.Normal) (lower : found.toRat ≤ value)
    (upper : value < found.toRat + 2 ^ found.exponent / 2) :
    nearestTo? value = some found := by
  have step := two_zpow_pos found.exponent
  have positive := normal.toRat_pos.trans_le lower
  have bounded : (found.significand : ℚ) + 1 ≤ 2 ^ 53 := by exact_mod_cast normal.bounded
  rw [toRat] at lower upper
  have log : Int.log 2 value = found.exponent + 52 := by
    apply log_eq one_lt_two
    · calc ((2 : ℕ) : ℚ) ^ (found.exponent + 52) = 2 ^ 52 * 2 ^ found.exponent := by
            push_cast
            rw [zpow_add₀ two_ne_zero, mul_comm]
            rfl
        _ ≤ value := normal.le_toRat.trans lower
    · calc value < (found.significand + 1) * 2 ^ found.exponent := by linarith
        _ ≤ 2 ^ 53 * 2 ^ found.exponent := by gcongr
        _ = ((2 : ℕ) : ℚ) ^ (found.exponent + 52 + 1) := by
            push_cast
            rw [add_assoc, zpow_add₀ two_ne_zero, mul_comm]
            norm_num
  have least := normal.least
  have grid : grid value = found.exponent := by
    rw [Double.grid, log]
    simp only [leastExponent] at least ⊢
    omega
  have rounded : halfEven (value / 2 ^ found.exponent) = found.significand := by
    apply halfEven_eq
    · rwa [le_div_iff₀ step]
    · rw [div_lt_iff₀ step]
      linarith
  have carried : found.significand ≠ 2 ^ 53 := normal.bounded.ne
  rw [nearestTo?, if_neg positive.ne', grid, rounded]
  simp only [carried, if_false, normal.greatest, if_true]

theorem Ordinary.exact {significand : ℕ} {exponent : ℤ} (ordinary : Ordinary value)
    (small : significand < 2 ^ 53) (same : value = significand * 2 ^ exponent)
    (read : nearestTo? value = some found) : found.toRat = value := by
  -- On a grid no coarser than the number's own, the number is a whole multiple of the step and
  -- nothing is rounded.
  have coarse : grid value ≤ exponent := by
    by_contra finer
    have bound : (significand : ℚ) < 2 ^ 53 := by exact_mod_cast small
    have step : (2 : ℚ) ^ (exponent + 1) ≤ 2 ^ grid value :=
      zpow_le_zpow_right₀ one_le_two (by omega)
    have contradiction : value < value := by
      calc value = significand * 2 ^ exponent := same
        _ < 2 ^ 53 * 2 ^ exponent := by gcongr
        _ = 2 ^ 52 * 2 ^ (exponent + 1) := by rw [zpow_add_one₀ two_ne_zero]; ring
        _ ≤ 2 ^ 52 * 2 ^ grid value := by gcongr
        _ ≤ value := ordinary.grid_le
    exact lt_irrefl _ contradiction
  obtain ⟨steps, split⟩ := Int.le.dest coarse
  have whole : value / 2 ^ grid value = (significand * 2 ^ steps : ℕ) := by
    have power : (2 : ℚ) ^ exponent = 2 ^ steps * 2 ^ grid value := by
      rw [← split, zpow_add₀ two_ne_zero, zpow_natCast, mul_comm]
    rw [div_eq_iff (two_zpow_pos _).ne', Nat.cast_mul, Nat.cast_pow,
      Nat.cast_two, mul_assoc, ← power]
    exact same
  rw [toRat_of_nearestTo? ordinary.positive read, whole, halfEven_natCast, ← whole,
    div_mul_cancel₀ _ (two_zpow_pos _).ne']

/-!
## Whole numbers and quotients
-/

theorem div?_eq (left : Double) {right : Double} (nonzero : right.significand ≠ 0) :
    left.div? right = nearestTo? (left.toRat / right.toRat) := by
  change nearest? (left.toRatio.1 * right.toRatio.2) (left.toRatio.2 * right.toRatio.1) = _
  rw [nearest?_eq _ (Nat.mul_pos left.toRatio_pos (toRatio_ne_zero nonzero)),
    ← left.toRatio_eq, ← right.toRatio_eq, div_div_div_eq]
  push_cast
  rfl

theorem ofNat?_eq (value : ℕ) : ofNat? value = nearestTo? value := by
  rw [ofNat?, nearest?_eq _ Nat.one_pos, Nat.cast_one, div_one]

theorem Ordinary.of_natCast {value : ℕ} (positive : 0 < value) (bounded : value ≤ 2 ^ 200) :
    Ordinary (value : ℚ) where
  lower := by
    have one : (1 : ℚ) ≤ value := by exact_mod_cast positive
    exact (zpow_le_one_of_nonpos₀ one_le_two (by norm_num)).trans one
  upper := by
    have cast : (value : ℚ) ≤ 2 ^ (200 : ℤ) := by exact_mod_cast bounded
    exact cast.trans (zpow_le_zpow_right₀ one_le_two (by norm_num))

end Double

end Passbook
