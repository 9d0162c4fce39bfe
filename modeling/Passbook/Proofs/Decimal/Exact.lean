import Mathlib.Algebra.Order.Ring.Abs
import Mathlib.Tactic.FieldSimp
import Mathlib.Tactic.Linarith
import Mathlib.Tactic.NormNum
import Mathlib.Tactic.Ring
import Mathlib.Data.Rat.Lemmas
import Passbook.Posting

/-!
Decimals as rational numbers. Order and normal form are exact; a sum is exact when its mantissa
fits, as it does for all balances and amounts that the ledger accepts.
-/

set_option autoImplicit false

namespace Passbook

theorem tenTo_cast (power : Nat) : (tenTo power : ℚ) = 10 ^ power := by
  change ((10 ^ power : Nat) : ℚ) = 10 ^ power
  push_cast
  rfl

namespace Decimal

/-- The number that a decimal denotes. -/
def toRat (value : Decimal) : ℚ := value.coefficient / 10 ^ value.scale

theorem toRat_zero : zero.toRat = 0 := by
  simp [toRat, zero, coefficient]

theorem unitsAt_cast (value : Decimal) {scale : Nat} (fine : value.scale ≤ scale) :
    (value.unitsAt scale : ℚ) = value.toRat * 10 ^ scale := by
  have split : (10 : ℚ) ^ scale = 10 ^ value.scale * 10 ^ (scale - value.scale) := by
    rw [← pow_add, Nat.add_sub_cancel' fine]
  rw [unitsAt, toRat, split]
  push_cast
  rw [tenTo_cast]
  field_simp

/-- The order of decimals is that of the numbers. -/
theorem compare_toRat (left right : Decimal) :
    left.compare right = Ord.compare left.toRat right.toRat := by
  have positive : (0 : ℚ) < 10 ^ max left.scale right.scale := by positivity
  have one := unitsAt_cast left (Nat.le_max_left left.scale right.scale)
  have two := unitsAt_cast right (Nat.le_max_right left.scale right.scale)
  rcases lt_trichotomy left.toRat right.toRat with less | same | more
  · have units : left.unitsAt (max left.scale right.scale) <
        right.unitsAt (max left.scale right.scale) := by
      rw [← Int.cast_lt (R := ℚ), one, two]
      exact mul_lt_mul_of_pos_right less positive
    rw [compare_lt_iff_lt.mpr less, compare, compare_lt_iff_lt.mpr units]
  · have units : left.unitsAt (max left.scale right.scale) =
        right.unitsAt (max left.scale right.scale) := by
      rw [← Int.cast_inj (α := ℚ), one, two, same]
    rw [compare_eq_iff_eq.mpr same, compare, compare_eq_iff_eq.mpr units]
  · have units : right.unitsAt (max left.scale right.scale) <
        left.unitsAt (max left.scale right.scale) := by
      rw [← Int.cast_lt (R := ℚ), one, two]
      exact mul_lt_mul_of_pos_right more positive
    rw [compare_gt_iff_gt.mpr more, compare, compare_gt_iff_gt.mpr units]

theorem compare_eq_iff (left right : Decimal) :
    left.compare right = .eq ↔ left.toRat = right.toRat := by
  rw [compare_toRat, compare_eq_iff_eq]

theorem atMost_iff (left right : Decimal) :
    left.atMost right = true ↔ left.toRat ≤ right.toRat := by
  rw [atMost, bne_iff_ne, Ne, compare_toRat, compare_gt_iff_gt, not_lt]

private theorem stripZeros_quotient (mantissa scale : Nat) :
    ((stripZeros mantissa scale).1 : ℚ) / 10 ^ (stripZeros mantissa scale).2 =
      mantissa / 10 ^ scale := by
  induction scale generalizing mantissa with
  | zero => rfl
  | succ scale ih =>
      rw [stripZeros]
      split
      · next final =>
          have whole : (mantissa : ℚ) = (mantissa / 10 : Nat) * 10 := by
            exact_mod_cast (Nat.div_mul_cancel (Nat.dvd_of_mod_eq_zero final)).symm
          rw [ih, whole, pow_succ]
          field_simp
      · rfl

theorem toRat_eq (value : Decimal) :
    value.toRat = (if value.negative then -1 else 1) * (value.mantissa / 10 ^ value.scale : ℚ) := by
  rw [toRat, coefficient]
  split <;> push_cast <;> ring

/-- What is put together from parts has these parts, except that a zero has no sign. -/
theorem parts_of_ofParts? {negative : Bool} {mantissa scale : Nat} {value : Decimal}
    (fits : ofParts? negative mantissa scale = some value) :
    value.negative = (negative && mantissa != 0) ∧ value.mantissa = mantissa ∧
      value.scale = scale := by
  rw [ofParts?] at fits
  split at fits
  · cases fits
    exact ⟨rfl, rfl, rfl⟩
  · cases fits

theorem toRat_ofParts? {negative : Bool} {mantissa scale : Nat} {value : Decimal}
    (fits : ofParts? negative mantissa scale = some value) :
    value.toRat = (if negative then -1 else 1) * (mantissa / 10 ^ scale : ℚ) := by
  obtain ⟨sign, sameMantissa, sameScale⟩ := parts_of_ofParts? fits
  rw [toRat_eq, sign, sameMantissa, sameScale]
  by_cases empty : mantissa = 0 <;> simp [empty]

theorem toRat_normalise (value : Decimal) : value.normalise.toRat = value.toRat := by
  rw [toRat_eq, toRat_eq, normalise, stripZeros_quotient]
  by_cases empty : value.mantissa = 0
  · simp [empty]
  · simp [empty]

theorem toRat_negate (value : Decimal) : value.negate.toRat = -value.toRat := by
  rw [toRat_eq, toRat_eq]
  cases sign : value.negative <;> simp [negate, sign]

/-!
## Sums
-/

theorem roundHalfEven_one (mantissa : Nat) : roundHalfEven mantissa (tenTo 0) = mantissa := by
  simp [roundHalfEven, tenTo, Nat.mod_one]

theorem fitFrom_exact {negative : Bool} {mantissa scale : Nat} {value : Decimal}
    (fits : ofParts? negative mantissa scale = some value) :
    fitFrom negative mantissa 0 scale = some value := by
  cases scale with
  | zero => rw [fitFrom, roundHalfEven_one, fits]
  | succ scale => rw [fitFrom, roundHalfEven_one, fits]

theorem fit?_exact {coefficient : Int} {scale : Nat} (small : coefficient.natAbs < mantissaBound)
    (coarse : scale ≤ 28) :
    ∃ value, fit? coefficient scale = some value ∧ value.coefficient = coefficient ∧
      value.scale = scale := by
  refine ⟨⟨decide (coefficient < 0) && coefficient.natAbs != 0, coefficient.natAbs, scale, small,
    coarse⟩, fitFrom_exact (by rw [ofParts?, dif_pos ⟨small, coarse⟩]), ?_, rfl⟩
  rw [Decimal.coefficient]
  by_cases below : coefficient < 0
  · have nonzero : coefficient ≠ 0 := below.ne
    simp [below, nonzero, abs_of_neg below]
  · simp [below, abs_of_nonneg (not_lt.mp below)]

/-- The units of an exact sum, on the finer of the two grids. -/
theorem unitsAt_add_cast (left right : Decimal) :
    ((left.unitsAt (max left.scale right.scale) +
        right.unitsAt (max left.scale right.scale) : ℤ) : ℚ) =
      (left.toRat + right.toRat) * 10 ^ max left.scale right.scale := by
  push_cast
  rw [unitsAt_cast left (Nat.le_max_left _ _), unitsAt_cast right (Nat.le_max_right _ _), add_mul]

theorem natAbs_unitsAt_add (left right : Decimal) :
    ((left.unitsAt (max left.scale right.scale) +
      right.unitsAt (max left.scale right.scale)).natAbs : ℚ) =
      |left.toRat + right.toRat| * 10 ^ max left.scale right.scale := by
  rw [Nat.cast_natAbs, Int.cast_abs, unitsAt_add_cast, abs_mul,
    abs_of_pos (by positivity : (0 : ℚ) < 10 ^ max left.scale right.scale)]

theorem add?_exact {left right : Decimal}
    (small : (left.unitsAt (max left.scale right.scale) +
      right.unitsAt (max left.scale right.scale)).natAbs < mantissaBound) :
    ∃ sum, left.add? right = some sum ∧ sum.toRat = left.toRat + right.toRat ∧
      sum.scale = max left.scale right.scale := by
  obtain ⟨sum, found, coefficient, scale⟩ :=
    fit?_exact small (Nat.max_le.mpr ⟨left.scale_le, right.scale_le⟩)
  refine ⟨sum, found, ?_, scale⟩
  rw [toRat, coefficient, scale, unitsAt_add_cast]
  field_simp

/-- With at most four fractional digits, a sum is exact if its ten-thousandths fit in a mantissa. -/
theorem add?_fine {left right : Decimal} (one : left.scale ≤ moneyScale)
    (two : right.scale ≤ moneyScale)
    (small : |left.toRat + right.toRat| * 10 ^ moneyScale < mantissaBound) :
    ∃ sum, left.add? right = some sum ∧ sum.toRat = left.toRat + right.toRat ∧
      sum.scale = max left.scale right.scale := by
  have grid : (10 : ℚ) ^ max left.scale right.scale ≤ 10 ^ moneyScale :=
    pow_le_pow_right₀ (by norm_num) (Nat.max_le.mpr ⟨one, two⟩)
  have bound :
      ((left.unitsAt (max left.scale right.scale) +
        right.unitsAt (max left.scale right.scale)).natAbs : ℚ) < mantissaBound := by
    calc ((left.unitsAt (max left.scale right.scale) +
          right.unitsAt (max left.scale right.scale)).natAbs : ℚ)
        = |left.toRat + right.toRat| * 10 ^ max left.scale right.scale :=
          natAbs_unitsAt_add left right
      _ ≤ |left.toRat + right.toRat| * 10 ^ moneyScale :=
        mul_le_mul_of_nonneg_left grid (abs_nonneg _)
      _ < mantissaBound := small
  exact add?_exact (Nat.cast_lt.mp bound)

end Decimal

/-!
## Balances and amounts
-/

theorem maxMoney_nonneg : 0 ≤ maxMoney.toRat := by
  rw [← Decimal.toRat_zero]
  exact (Decimal.atMost_iff _ _).mp (by decide)

theorem Money.toRat_ofDecimal (value : Decimal) : (ofDecimal value).value.toRat = value.toRat :=
  Decimal.toRat_normalise value

theorem Money.toRat_zero : zero.value.toRat = 0 := (toRat_ofDecimal .zero).trans Decimal.toRat_zero

/-- Whether a balance can be stored: it is not negative, not too large, and has at most four
fractional digits. -/
structure Money.Storable (balance : Money) : Prop where
  lower : 0 ≤ balance.value.toRat
  upper : balance.value.toRat ≤ maxMoney.toRat
  fine : balance.value.scale ≤ moneyScale

theorem Money.storable_zero : Money.zero.Storable where
  lower := toRat_zero.ge
  upper := toRat_zero.trans_le maxMoney_nonneg
  fine := by decide

theorem Amount.toRat_pos (amount : Amount) : 0 < amount.value.toRat := by
  have notAtMost : ¬ amount.value.toRat ≤ Decimal.zero.toRat := fun below => by
    have same := (Decimal.atMost_iff _ _).mpr below
    rw [amount.positive] at same
    cases same
  rw [Decimal.toRat_zero] at notAtMost
  exact not_le.mp notAtMost

theorem Amount.toRat_le (amount : Amount) : amount.value.toRat ≤ maxMoney.toRat :=
  (Decimal.atMost_iff _ _).mp amount.bounded

/-- Whether a decimal is no larger than what can be stored, with either sign. -/
structure Decimal.Moderate (value : Decimal) : Prop where
  lower : -maxMoney.toRat ≤ value.toRat
  upper : value.toRat ≤ maxMoney.toRat
  fine : value.scale ≤ moneyScale

theorem Money.Storable.moderate {balance : Money} (storable : balance.Storable) :
    balance.value.Moderate :=
  ⟨by linarith [storable.lower, maxMoney_nonneg], storable.upper, storable.fine⟩

theorem Amount.moderate (amount : Amount) : amount.value.Moderate :=
  ⟨by linarith [amount.toRat_pos, maxMoney_nonneg], amount.toRat_le, amount.fine⟩

theorem Decimal.Moderate.negate {value : Decimal} (moderate : value.Moderate) :
    value.negate.Moderate where
  lower := by
    rw [Decimal.toRat_negate]
    linarith [moderate.upper]
  upper := by
    rw [Decimal.toRat_negate]
    linarith [moderate.lower]
  fine := moderate.fine

theorem Decimal.Moderate.add? {left right : Decimal} (first : left.Moderate)
    (second : right.Moderate) :
    ∃ sum, left.add? right = some sum ∧ sum.toRat = left.toRat + right.toRat ∧
      sum.scale ≤ moneyScale := by
  have largest : (2 * maxMoney.toRat) * 10 ^ moneyScale < mantissaBound := by
    norm_num [Decimal.toRat, Decimal.coefficient, maxMoney, moneyScale, mantissaBound, twoTo]
  have size : |left.toRat + right.toRat| ≤ 2 * maxMoney.toRat :=
    abs_le.mpr ⟨by linarith [first.lower, second.lower], by linarith [first.upper, second.upper]⟩
  have small : |left.toRat + right.toRat| * 10 ^ moneyScale < mantissaBound :=
    (mul_le_mul_of_nonneg_right size (by positivity)).trans_lt largest
  obtain ⟨sum, found, value, scale⟩ := Decimal.add?_fine first.fine second.fine small
  exact ⟨sum, found, value, scale ▸ Nat.max_le.mpr ⟨first.fine, second.fine⟩⟩

/-- What a movement adds to a balance. -/
def EntryKind.change (kind : EntryKind) (amount : Amount) : ℚ :=
  match kind with
  | .credit => amount.value.toRat
  | .debit => -amount.value.toRat

theorem credit_exact {balance next : Money} {amount : Amount} (storable : balance.Storable)
    (posted : balance.credit amount = .ok next) :
    next.Storable ∧ next.value.toRat = balance.value.toRat + amount.value.toRat := by
  obtain ⟨sum, found, value, fine⟩ := storable.moderate.add? amount.moderate
  simp only [Money.credit, found] at posted
  split at posted
  · next fits =>
      cases posted
      have exact := (Money.toRat_ofDecimal sum).trans value
      refine ⟨⟨?_, ?_, (Decimal.stripZeros_scale_le _ _).trans fine⟩, exact⟩
      · rw [exact]
        linarith [storable.lower, amount.toRat_pos]
      · rw [Money.toRat_ofDecimal]
        exact (Decimal.atMost_iff _ _).mp fits
  · cases posted

theorem debit_exact {balance next : Money} {amount : Amount} (storable : balance.Storable)
    (posted : balance.debit amount = .ok next) :
    next.Storable ∧ next.value.toRat = balance.value.toRat + -amount.value.toRat := by
  obtain ⟨sum, found, value, fine⟩ := storable.moderate.add? amount.moderate.negate
  rw [Decimal.toRat_negate] at value
  simp only [Money.debit, Decimal.sub?, found] at posted
  split at posted
  · next covered =>
      cases posted
      have exact := (Money.toRat_ofDecimal sum).trans value
      have enough := (Decimal.atMost_iff _ _).mp covered
      refine ⟨⟨?_, ?_, (Decimal.stripZeros_scale_le _ _).trans fine⟩, exact⟩
      · rw [exact]
        linarith
      · rw [exact]
        linarith [storable.upper, amount.toRat_pos]
  · cases posted

/-- A movement that is accepted changes the balance by exactly its amount. -/
theorem post_exact {balance next : Money} {kind : EntryKind} {amount : Amount}
    (storable : balance.Storable) (posted : post balance kind amount = .ok next) :
    next.Storable ∧ next.value.toRat = balance.value.toRat + kind.change amount := by
  cases kind with
  | credit => exact credit_exact storable posted
  | debit => exact debit_exact storable posted

end Passbook
