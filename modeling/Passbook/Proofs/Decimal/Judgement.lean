import Passbook.Proofs.Decimal.Units

/-!
What decides whether a decimal is an amount. It is the number alone: the scale at which it is kept,
zeros at its end and the sign of a zero do not matter. Of several reasons to refuse a number the
first in the order sign, precision, size is given.
-/

set_option autoImplicit false

namespace Passbook

/-- Whether a number is a whole number of ten-thousandths, of either sign. -/
def InUnits (value : ℚ) : Prop := ∃ units : ℤ, value * 10 ^ moneyScale = units

namespace Amount

/-- Why a number is not an amount. -/
inductive Defect
  | sign
  | precision
  | size
  deriving DecidableEq

namespace Defect

/-- What a caller is told of a defect. -/
def reason : Defect → String
  | sign => "amount must be greater than zero"
  | precision => "amount must have at most 4 decimal places"
  | size => "amount must not exceed 9999999999999999.9999"

/-- Whether a defect is the first one of a number. -/
def IsFirst (value : ℚ) : Defect → Prop
  | sign => value ≤ 0
  | precision => 0 < value ∧ ¬ InUnits value
  | size => 0 < value ∧ InUnits value ∧ maxMoney.toRat < value

theorem reason_injective {one other : Defect} (same : one.reason = other.reason) : one = other := by
  cases one <;> cases other <;> revert same <;> decide

end Defect

variable {value : ℚ} {defect : Defect} {decimal : Decimal} {amount : Amount}
  {one other : Except LedgerError Amount}

theorem inUnits (amount : Amount) : InUnits amount.value.toRat :=
  (amount.normal.scale_le_iff moneyScale).mp amount.fine

/-- What becomes of a number that is to be an amount. -/
inductive Judged (value : ℚ) : Except LedgerError Amount → Prop
  | accepted {amount : Amount} (exact : amount.value.toRat = value) : Judged value (.ok amount)
  | refused (defect : Defect) (first : defect.IsFirst value) :
      Judged value (.error (.validation defect.reason))

theorem ofDecimal_judged (decimal : Decimal) : Judged decimal.toRat (ofDecimal decimal) := by
  have exact := Decimal.toRat_normalise decimal
  have sign : decimal.normalise.atMost .zero = true ↔ decimal.toRat ≤ 0 := by
    rw [Decimal.atMost_iff, exact, Decimal.toRat_zero]
  have precision : decimal.normalise.scale ≤ moneyScale ↔ InUnits decimal.toRat := by
    rw [decimal.isNormal_normalise.scale_le_iff, exact, InUnits]
  have size : decimal.normalise.atMost maxMoney = true ↔ decimal.toRat ≤ maxMoney.toRat := by
    rw [Decimal.atMost_iff, exact]
  rw [ofDecimal]
  split
  · next positive =>
      have above : 0 < decimal.toRat := by
        rw [← not_le, ← sign, positive]
        decide
      split
      · next fine =>
          split
          · next bounded => exact .accepted exact
          · next large =>
              rw [size, not_le] at large
              exact .refused .size ⟨above, precision.mp fine, large⟩
      · next finer =>
          rw [precision] at finer
          exact .refused .precision ⟨above, finer⟩
  · next nonpositive =>
      rw [Bool.not_eq_false, sign] at nonpositive
      exact .refused .sign nonpositive

/-- No amount has a defect. -/
theorem not_isFirst (amount : Amount) (defect : Defect) : ¬ defect.IsFirst amount.value.toRat := by
  intro first
  cases defect with
  | sign => exact absurd amount.toRat_pos (not_lt.mpr first)
  | precision => exact first.2 amount.inUnits
  | size => exact absurd amount.toRat_le (not_le.mpr first.2.2)

theorem Defect.IsFirst.unique {another : Defect} (first : defect.IsFirst value)
    (second : another.IsFirst value) : defect = another := by
  cases defect <;> cases another <;> grind [IsFirst]

/-- A number is judged in one way. -/
theorem Judged.unique (first : Judged value one) (second : Judged value other) : one = other := by
  cases first with
  | accepted exact =>
      cases second with
      | accepted same => exact (ofDecimal_eq rfl).symm.trans (ofDecimal_eq (exact.trans same.symm))
      | refused defect isFirst => exact absurd (exact ▸ isFirst) (not_isFirst _ defect)
  | refused defect isFirst =>
      cases second with
      | accepted same => exact absurd (same ▸ isFirst) (not_isFirst _ defect)
      | refused another alsoFirst => rw [isFirst.unique alsoFirst]

theorem ofDecimal_eq_iff : ofDecimal decimal = one ↔ Judged decimal.toRat one :=
  ⟨fun same => same ▸ ofDecimal_judged decimal,
    fun judged => (ofDecimal_judged decimal).unique judged⟩

theorem ofDecimal_ok_iff : ofDecimal decimal = .ok amount ↔ amount.value.toRat = decimal.toRat := by
  rw [ofDecimal_eq_iff]
  constructor
  · rintro ⟨exact⟩
    exact exact
  · exact .accepted

theorem ofDecimal_error_iff :
    ofDecimal decimal = .error (.validation defect.reason) ↔ defect.IsFirst decimal.toRat := by
  rw [ofDecimal_eq_iff]
  constructor
  · intro judged
    generalize told : (.error (.validation defect.reason) : Except LedgerError Amount) = result
      at judged
    cases judged with
    | accepted exact => cases told
    | refused another isFirst =>
        have same : defect.reason = another.reason :=
          LedgerError.validation.inj (Except.error.inj told)
        rwa [Defect.reason_injective same]
  · exact .refused defect

/-- Whatever is refused has a defect. -/
theorem exists_defect {refusal : LedgerError} (refused : ofDecimal decimal = .error refusal) :
    ∃ defect : Defect, refusal = .validation defect.reason := by
  rw [ofDecimal_eq_iff] at refused
  obtain - | ⟨defect, -⟩ := refused
  exact ⟨defect, rfl⟩

theorem accepted_iff : (∃ amount, ofDecimal decimal = .ok amount) ↔
    0 < decimal.toRat ∧ decimal.toRat ≤ maxMoney.toRat ∧ InUnits decimal.toRat := by
  constructor
  · rintro ⟨amount, accepted⟩
    rw [← ofDecimal_ok_iff.mp accepted]
    exact ⟨amount.toRat_pos, amount.toRat_le, amount.inUnits⟩
  · rintro ⟨positive, bounded, units⟩
    cases judged : ofDecimal decimal with
    | ok amount => exact ⟨amount, rfl⟩
    | error refusal =>
        obtain ⟨defect, rfl⟩ := exists_defect judged
        have isFirst := ofDecimal_error_iff.mp judged
        cases defect with
        | sign => exact absurd positive (not_lt.mpr isFirst)
        | precision => exact absurd units isFirst.2
        | size => exact absurd bounded (not_le.mpr isFirst.2.2)

/-- How a decimal is judged that is to be an amount. -/
structure ByValue (decimal : Decimal) : Prop where
  accepted_iff : (∃ amount, ofDecimal decimal = .ok amount) ↔
    0 < decimal.toRat ∧ decimal.toRat ≤ maxMoney.toRat ∧ InUnits decimal.toRat
  exact : ∀ amount, ofDecimal decimal = .ok amount → amount.value.toRat = decimal.toRat ∧
    amount.value.scale ≤ moneyScale
  refused_iff : ∀ defect : Defect, ofDecimal decimal = .error (.validation defect.reason) ↔
    defect.IsFirst decimal.toRat
  alike : ∀ other : Decimal, decimal.compare other = .eq → ofDecimal other = ofDecimal decimal

/-- Whatever its sign, mantissa and scale, a decimal is judged by the number that it denotes. -/
theorem amounts_by_value (decimal : Decimal) : ByValue decimal where
  accepted_iff := accepted_iff
  exact amount accepted := ⟨ofDecimal_ok_iff.mp accepted, amount.fine⟩
  refused_iff _ := ofDecimal_error_iff
  alike other same := by
    rw [Decimal.compare_eq_iff] at same
    rw [ofDecimal_eq_iff, ← same]
    exact ofDecimal_judged decimal

end Amount

end Passbook
