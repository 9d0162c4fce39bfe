import Passbook.Proofs.Decimal.Normal

/-!
Sums that may be rounded. Whether there is a sum, and what it denotes, depends on the numbers that
are added and not on the scales at which they are kept. A sum is not negative if the exact one is
not, and there is one whenever the exact one is within the range of mantissas.
-/

set_option autoImplicit false

namespace Passbook

theorem roundHalfEven_mul (numerator denominator : ℕ) {factor : ℕ} (positive : 0 < factor) :
    roundHalfEven (numerator * factor) (denominator * factor) =
      roundHalfEven numerator denominator := by
  have down : 2 * (numerator % denominator * factor) < denominator * factor ↔
      2 * (numerator % denominator) < denominator := by
    rw [← mul_assoc, Nat.mul_lt_mul_right positive]
  have up : denominator * factor < 2 * (numerator % denominator * factor) ↔
      denominator < 2 * (numerator % denominator) := by
    rw [← mul_assoc, Nat.mul_lt_mul_right positive]
  simp only [roundHalfEven, Nat.mul_div_mul_right _ _ positive, Nat.mul_mod_mul_right, down, up]

/-- Rounding does not pass an integer. -/
theorem roundHalfEven_le {numerator denominator bound : ℕ} (positive : 0 < denominator)
    (below : numerator ≤ bound * denominator) :
    roundHalfEven numerator denominator ≤ bound := by
  have quotient : numerator / denominator ≤ bound := Nat.div_le_of_le_mul (by rwa [mul_comm])
  rcases Nat.lt_or_eq_of_le quotient with less | full
  · simp only [roundHalfEven]
    split_ifs <;> omega
  · have split := Nat.div_add_mod numerator denominator
    rw [full, mul_comm] at split
    have none : numerator % denominator = 0 := by omega
    simp only [roundHalfEven, none, full, mul_zero, positive, if_true, le_refl]

namespace Decimal

variable {negative : Bool} {left right other another sum value : Decimal} {scale grid : ℕ}

/-!
## Finer grids
-/

private theorem fitFrom_finer (negative : Bool) (mantissa dropped scale : ℕ) :
    fitFrom negative (mantissa * 10) (dropped + 1) scale =
      fitFrom negative mantissa dropped scale := by
  induction scale generalizing dropped with
  | zero => rw [fitFrom, fitFrom, tenTo_succ, roundHalfEven_mul _ _ (by decide)]
  | succ scale ih => rw [fitFrom, fitFrom, tenTo_succ, roundHalfEven_mul _ _ (by decide), ih]

/-- One more digit on which nothing depends changes no result. -/
private theorem fit?_finer (coefficient : ℤ) (coarse : scale < maxScale) :
    (fit? (coefficient * 10) (scale + 1)).map toRat = (fit? coefficient scale).map toRat := by
  have sign : decide (coefficient * 10 < 0) = decide (coefficient < 0) := by
    rw [decide_eq_decide]
    omega
  have size : (coefficient * 10).natAbs = coefficient.natAbs * 10 := Int.natAbs_mul coefficient 10
  rw [fit?, fit?, sign, size, fitFrom, roundHalfEven_one]
  generalize decide (coefficient < 0) = negative, coefficient.natAbs = mantissa
  cases finer : ofParts? negative (mantissa * 10) (scale + 1) with
  | none =>
      simp only
      rw [fitFrom_finer]
  | some value =>
      have small : mantissa * 10 < mantissaBound :=
        (parts_of_ofParts? finer).2.1 ▸ value.mantissa_lt
      have bounds : mantissa < mantissaBound ∧ scale ≤ 28 := ⟨by omega, coarse.le⟩
      have fits : ofParts? negative mantissa scale = some _ := dif_pos bounds
      rw [fitFrom_exact fits]
      simp only [Option.map_some, Option.some.injEq]
      rw [toRat_ofParts? finer, toRat_ofParts? fits, pow_succ]
      push_cast
      field_simp

theorem fit?_refined (coefficient : ℤ) (more : ℕ) (coarse : scale + more ≤ maxScale) :
    (fit? (coefficient * tenTo more) (scale + more)).map toRat =
      (fit? coefficient scale).map toRat := by
  induction more with
  | zero => simp [tenTo]
  | succ more ih =>
      have split : coefficient * (tenTo (more + 1) : ℤ) = coefficient * tenTo more * 10 := by
        rw [tenTo_succ]
        push_cast
        ring
      rw [split, ← add_assoc, fit?_finer _ (by omega), ih (by omega)]

theorem unitsAt_refined (fine : value.scale ≤ scale) (more : ℕ) :
    value.unitsAt (scale + more) = value.unitsAt scale * tenTo more := by
  have power : tenTo (scale + more - value.scale) = tenTo (scale - value.scale) * tenTo more := by
    have digits : scale + more - value.scale = (scale - value.scale) + more := by omega
    rw [digits]
    exact pow_add 10 _ _
  rw [unitsAt, unitsAt, power]
  push_cast
  ring

theorem unitsAt_eq (same : value.toRat = other.toRat) (one : value.scale ≤ grid)
    (two : other.scale ≤ grid) :
    value.unitsAt grid = other.unitsAt grid := by
  have equal : (value.unitsAt grid : ℚ) = other.unitsAt grid := by
    rw [unitsAt_cast value one, unitsAt_cast other two, same]
  exact_mod_cast equal

/-- A sum may be taken on any grid that is fine enough. -/
theorem add?_on_grid (one : left.scale ≤ grid) (two : right.scale ≤ grid)
    (coarse : grid ≤ maxScale) :
    (left.add? right).map toRat =
      (fit? (left.unitsAt grid + right.unitsAt grid) grid).map toRat := by
  obtain ⟨more, rfl⟩ := Nat.exists_eq_add_of_le (Nat.max_le.mpr ⟨one, two⟩)
  rw [unitsAt_refined (Nat.le_max_left _ _), unitsAt_refined (Nat.le_max_right _ _), ← add_mul,
    fit?_refined _ _ coarse]
  rfl

/-- What a sum denotes depends on what is added alone, also if the sum is rounded. -/
theorem add?_congr (sameLeft : left.toRat = other.toRat) (sameRight : right.toRat = another.toRat) :
    (left.add? right).map toRat = (other.add? another).map toRat := by
  have coarse : ∀ value : Decimal, value.scale ≤ maxScale := fun value => value.scale_le
  rw [add?_on_grid (coarse left) (coarse right) le_rfl,
    add?_on_grid (coarse other) (coarse another) le_rfl,
    unitsAt_eq sameLeft (coarse left) (coarse other),
    unitsAt_eq sameRight (coarse right) (coarse another)]

/-!
## Sign and existence
-/

/-- Whatever digits are given up, the result is put together from a sign, a mantissa and a scale. -/
private theorem exists_parts_of_fitFrom {mantissa dropped : ℕ}
    (found : fitFrom negative mantissa dropped scale = some value) :
    ∃ rounded places, ofParts? negative rounded places = some value := by
  induction scale generalizing dropped with
  | zero => exact ⟨_, _, found⟩
  | succ scale ih =>
      rw [fitFrom] at found
      split at found
      · next fitting fits =>
          cases found
          exact ⟨_, _, fits⟩
      · exact ih found

theorem add?_unsignedZero (found : left.add? right = some sum) : sum.UnsignedZero := by
  obtain ⟨rounded, places, fits⟩ := exists_parts_of_fitFrom found
  obtain ⟨sign, mantissa, -⟩ := parts_of_ofParts? fits
  intro signed
  rw [sign, Bool.and_eq_true, bne_iff_ne] at signed
  rw [mantissa]
  exact signed.2

theorem add?_nonneg (nonneg : 0 ≤ left.toRat + right.toRat) (found : left.add? right = some sum) :
    0 ≤ sum.toRat := by
  have units : 0 ≤ left.unitsAt (max left.scale right.scale) +
      right.unitsAt (max left.scale right.scale) := by
    have cast := unitsAt_add_cast left right
    have product : 0 ≤ (left.toRat + right.toRat) * 10 ^ max left.scale right.scale := by positivity
    rw [← cast] at product
    exact_mod_cast product
  simp only [add?, fit?, decide_eq_false (not_lt.mpr units)] at found
  obtain ⟨rounded, places, parts⟩ := exists_parts_of_fitFrom found
  rw [toRat_ofParts? parts, if_neg Bool.false_ne_true, one_mul]
  positivity

private theorem exists_fitFrom {mantissa dropped : ℕ} (coarse : scale ≤ maxScale)
    (fits : roundHalfEven mantissa (tenTo (dropped + scale)) < mantissaBound) :
    ∃ value, fitFrom negative mantissa dropped scale = some value := by
  induction scale generalizing dropped with
  | zero => exact ⟨_, dif_pos ⟨fits, Nat.zero_le _⟩⟩
  | succ scale ih =>
      rw [fitFrom]
      split
      · exact ⟨_, rfl⟩
      · refine ih (Nat.le_of_succ_le coarse) ?_
        rwa [Nat.succ_add_eq_add_succ]

/-- A sum exists if the exact one is not larger than the largest mantissa. -/
theorem exists_add? (small : |left.toRat + right.toRat| ≤ (mantissaBound - 1 : ℕ)) :
    ∃ sum, left.add? right = some sum := by
  refine exists_fitFrom (Nat.max_le.mpr ⟨left.scale_le, right.scale_le⟩) ?_
  rw [Nat.zero_add]
  have units :
      (left.unitsAt (max left.scale right.scale) +
          right.unitsAt (max left.scale right.scale)).natAbs ≤
        (mantissaBound - 1) * tenTo (max left.scale right.scale) := by
    have size :
        (((left.unitsAt (max left.scale right.scale) +
            right.unitsAt (max left.scale right.scale)).natAbs : ℕ) : ℚ) ≤
          (mantissaBound - 1 : ℕ) * 10 ^ max left.scale right.scale := by
      rw [natAbs_unitsAt_add]
      gcongr
    rw [← tenTo_cast] at size
    exact_mod_cast size
  have bound : 0 < mantissaBound := by decide
  have rounded := roundHalfEven_le (tenTo_pos _) units
  omega

theorem abs_toRat_le (value : Decimal) : |value.toRat| ≤ (mantissaBound - 1 : ℕ) := by
  have small : value.mantissa ≤ mantissaBound - 1 := Nat.le_pred_of_lt value.mantissa_lt
  have power : (1 : ℚ) ≤ 10 ^ value.scale := one_le_pow₀ (by norm_num)
  rw [abs_toRat]
  calc (value.mantissa : ℚ) / 10 ^ value.scale ≤ value.mantissa :=
        div_le_self (Nat.cast_nonneg _) power
    _ ≤ (mantissaBound - 1 : ℕ) := Nat.cast_le.mpr small

end Decimal

end Passbook
