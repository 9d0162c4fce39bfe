import Mathlib.Tactic.Positivity
import Passbook.Proofs.Decimal.Exact

/-!
Normal forms of decimals. Two decimals in normal form that denote the same number are the same, so
that values can be compared by their normal forms.
-/

set_option autoImplicit false

namespace Passbook.Decimal

variable {value other : Decimal}

theorem abs_toRat (value : Decimal) : |value.toRat| = value.mantissa / 10 ^ value.scale := by
  have positive : (0 : ℚ) ≤ value.mantissa / 10 ^ value.scale := by positivity
  rw [toRat_eq, abs_mul, abs_of_nonneg positive]
  split <;> simp

theorem quotients_eq (same : value.toRat = other.toRat) :
    (value.mantissa : ℚ) / 10 ^ value.scale = other.mantissa / 10 ^ other.scale := by
  rw [← abs_toRat, ← abs_toRat, same]

/-- A fraction in normal form does not end in a zero. -/
theorem IsNormal.final (normal : value.IsNormal) (fraction : value.scale ≠ 0) :
    value.mantissa % 10 ≠ 0 := by
  intro zero
  have kept : (stripZeros value.mantissa value.scale).2 = value.scale := congrArg scale normal
  obtain ⟨scale, same⟩ := Nat.exists_eq_succ_of_ne_zero fraction
  rw [same, stripZeros, if_pos zero] at kept
  have shorter := stripZeros_scale_le (value.mantissa / 10) scale
  omega

/-- In normal form there are as few fractional digits as the number needs. -/
theorem IsNormal.scale_le_iff (normal : value.IsNormal) (places : ℕ) :
    value.scale ≤ places ↔ ∃ units : ℤ, value.toRat * 10 ^ places = units := by
  constructor
  · intro fine
    exact ⟨value.unitsAt places, (unitsAt_cast value fine).symm⟩
  · rintro ⟨units, whole⟩
    by_contra finer
    obtain ⟨more, split⟩ : ∃ more, value.scale = places + (more + 1) :=
      ⟨value.scale - places - 1, by omega⟩
    have size : (value.mantissa : ℚ) = |(units : ℚ)| * 10 ^ more * 10 := by
      rw [← whole, abs_mul, abs_toRat, split, abs_of_pos (by positivity : (0 : ℚ) < 10 ^ places)]
      field_simp
      ring
    have mantissa : value.mantissa = units.natAbs * 10 ^ more * 10 := by
      rw [← Int.cast_abs, ← Nat.cast_natAbs] at size
      exact_mod_cast size
    exact normal.final (by omega) (by omega)

/-- No other decimal of the same value has fewer fractional digits than the normal form. -/
theorem IsNormal.scale_le (normal : value.IsNormal) (same : value.toRat = other.toRat) :
    value.scale ≤ other.scale := by
  refine (normal.scale_le_iff other.scale).mpr ⟨other.unitsAt other.scale, ?_⟩
  rw [same, unitsAt_cast other le_rfl]

/-!
## The sign of zero
-/

/-- Whether the decimal has a sign only if it is not zero. -/
def UnsignedZero (value : Decimal) : Prop := value.negative = true → value.mantissa ≠ 0

theorem unsignedZero_of_toRat_ne_zero (nonzero : value.toRat ≠ 0) : value.UnsignedZero := by
  intro _ zero
  rw [toRat_eq, zero, Nat.cast_zero, zero_div, mul_zero] at nonzero
  exact nonzero rfl

theorem UnsignedZero.negative_iff (unsigned : value.UnsignedZero) :
    value.negative = true ↔ value.toRat < 0 := by
  cases negative : value.negative with
  | false =>
      simp only [toRat_eq, negative, Bool.false_eq_true, if_false, false_iff, one_mul, not_lt]
      positivity
  | true =>
      have positive : 0 < value.mantissa := Nat.pos_of_ne_zero (unsigned negative)
      simp only [toRat_eq, negative, if_true, true_iff, neg_one_mul, neg_lt_zero]
      positivity

/-- Without a signed zero, the number and its fractional digits make the decimal. -/
theorem UnsignedZero.ext (one : value.UnsignedZero) (two : other.UnsignedZero)
    (scale : value.scale = other.scale) (same : value.toRat = other.toRat) : value = other := by
  have mantissa : value.mantissa = other.mantissa := by
    have quotients := quotients_eq same
    rw [scale, div_left_inj' (by positivity)] at quotients
    exact_mod_cast quotients
  have sign : value.negative = other.negative := by
    rw [Bool.eq_iff_iff, one.negative_iff, two.negative_iff, same]
  cases value
  cases other
  simp_all

theorem IsNormal.unsignedZero (normal : value.IsNormal) : value.UnsignedZero := by
  intro negative zero
  have kept : (value.negative && value.mantissa != 0) = value.negative :=
    congrArg Decimal.negative normal
  rw [negative, zero] at kept
  cases kept

/-- A value has one normal form. -/
theorem IsNormal.unique (one : value.IsNormal) (two : other.IsNormal)
    (same : value.toRat = other.toRat) : value = other :=
  one.unsignedZero.ext two.unsignedZero (le_antisymm (one.scale_le same) (two.scale_le same.symm))
    same

end Passbook.Decimal

namespace Passbook.Money

theorem ofDecimal_eq {value : Decimal} {balance : Money}
    (same : value.toRat = balance.value.toRat) :
    ofDecimal value = balance := by
  have equal : value.normalise = balance.value :=
    value.isNormal_normalise.unique balance.normal ((Decimal.toRat_normalise value).trans same)
  cases balance
  simp only [ofDecimal, equal]

/-- Balances are the same if they denote the same number. -/
theorem eq_iff {one other : Money} : one = other ↔ one.value.toRat = other.value.toRat := by
  refine ⟨fun same => same ▸ rfl, fun same => ?_⟩
  rw [← ofDecimal_eq same, ofDecimal_eq rfl]

theorem ofDecimal_eq_iff {one other : Decimal} :
    ofDecimal one = ofDecimal other ↔ one.toRat = other.toRat := by
  rw [eq_iff, toRat_ofDecimal, toRat_ofDecimal]

theorem isNegative_iff (balance : Money) : balance.isNegative = true ↔ balance.value.toRat < 0 := by
  rw [← balance.normal.unsignedZero.negative_iff, isNegative, Bool.and_eq_true]
  refine ⟨fun both => both.1, fun negative => ⟨negative, ?_⟩⟩
  simpa [Decimal.isZero] using balance.normal.unsignedZero negative

end Passbook.Money

namespace Passbook.Amount

/-- Every decimal of the same value is accepted, as the same amount. -/
theorem ofDecimal_eq {value : Decimal} {amount : Amount} (same : value.toRat = amount.value.toRat) :
    ofDecimal value = .ok amount := by
  have equal : value.normalise = amount.value :=
    value.isNormal_normalise.unique amount.normal ((Decimal.toRat_normalise value).trans same)
  have positive : value.normalise.atMost .zero = false := equal ▸ amount.positive
  have fine : value.normalise.scale ≤ moneyScale := equal ▸ amount.fine
  have bounded : value.normalise.atMost maxMoney = true := equal ▸ amount.bounded
  cases amount
  simp only [ofDecimal, positive, fine, bounded, dite_true, Except.ok.injEq, mk.injEq]
  exact equal

end Passbook.Amount
