import Passbook.Proofs.Decimal.Normal

/-!
Balances and amounts as whole numbers of ten-thousandths. On those a posting is the addition or the
subtraction of natural numbers, whatever the scales of the decimals: a sum is refused exactly if it
is above the largest balance, a difference exactly if it would be below zero.
-/

set_option autoImplicit false

namespace Passbook

/-- The largest balance, in ten-thousandths. -/
def maxUnits : Nat := 10 ^ 20 - 1

theorem maxMoney_units : maxMoney.toRat = maxUnits / 10 ^ moneyScale := by
  norm_num [Decimal.toRat, Decimal.coefficient, maxMoney, maxUnits, moneyScale]

/-- Numbers of ten-thousandths are ordered as what they denote. -/
private theorem units_le_units {one other : ℕ} :
    (one : ℚ) / 10 ^ moneyScale ≤ other / 10 ^ moneyScale ↔ one ≤ other := by
  rw [div_le_div_iff_of_pos_right (by positivity), Nat.cast_le]

/-- A balance of so many ten-thousandths, as it is kept: in normal form, with at most four
fractional digits, and not above the largest balance. -/
structure Money.Counts (balance : Money) (units : ℕ) : Prop where
  exact : balance.value.toRat = units / 10 ^ moneyScale
  normal : balance.value.IsNormal
  storable : balance.Storable

variable {balance : Money} {amount : Amount} {held moved : ℕ}

theorem Money.counts_of_toRat (exact : balance.value.toRat = held / 10 ^ moneyScale)
    (small : held ≤ maxUnits) :
    balance.Counts held := by
  have bound : held < mantissaBound := Nat.lt_of_le_of_lt small (by decide)
  let onGrid : Decimal := ⟨false, held, moneyScale, bound, by decide⟩
  have same : balance.value.toRat = onGrid.toRat := by
    rw [exact]
    rfl
  refine ⟨exact, balance.normal, ?_, ?_, balance.normal.scale_le same⟩
  · rw [exact]
    positivity
  · rw [exact, maxMoney_units]
    exact units_le_units.mpr small

theorem Amount.units_bounds (worth : amount.value.toRat = moved / 10 ^ moneyScale) :
    1 ≤ moved ∧ moved ≤ maxUnits := by
  constructor
  · have positive := amount.toRat_pos
    rw [worth] at positive
    refine Nat.one_le_iff_ne_zero.mpr fun none => ?_
    simp [none] at positive
  · have bounded := amount.toRat_le
    rw [worth, maxMoney_units] at bounded
    exact units_le_units.mp bounded

theorem Amount.exists_units (amount : Amount) :
    ∃ units : ℕ, amount.value.toRat = units / 10 ^ moneyScale := by
  have positive := amount.toRat_pos
  obtain ⟨more, split⟩ := Nat.exists_eq_add_of_le amount.fine
  refine ⟨amount.value.mantissa * 10 ^ more, ?_⟩
  rw [Decimal.toRat_eq] at positive ⊢
  cases negative : amount.value.negative
  · rw [split, pow_add]
    simp only [Bool.false_eq_true, if_false]
    push_cast
    field_simp
  · rw [negative, if_pos rfl, neg_one_mul, neg_pos] at positive
    exact absurd positive (not_lt.mpr (by positivity))

/-- Every number of ten-thousandths up to the largest balance is an amount. -/
theorem Amount.exists_of_units (some : 1 ≤ moved) (small : moved ≤ maxUnits) :
    ∃ amount : Amount, amount.value.toRat = moved / 10 ^ moneyScale := by
  have bound : moved < mantissaBound := Nat.lt_of_le_of_lt small (by decide)
  let onGrid : Decimal := ⟨false, moved, moneyScale, bound, by decide⟩
  have worth : onGrid.normalise.toRat = moved / 10 ^ moneyScale := Decimal.toRat_normalise onGrid
  have positive : onGrid.normalise.atMost .zero = false := by
    rw [← Bool.not_eq_true, Decimal.atMost_iff, worth, Decimal.toRat_zero, not_le]
    have units : (0 : ℚ) < moved := by exact_mod_cast some
    positivity
  have bounded : onGrid.normalise.atMost maxMoney = true := by
    rw [Decimal.atMost_iff, worth, maxMoney_units]
    exact units_le_units.mpr small
  exact ⟨⟨onGrid.normalise, onGrid.isNormal_normalise, positive,
    Decimal.stripZeros_scale_le _ _, bounded⟩, worth⟩

/-- The amounts are the positive numbers of ten-thousandths up to the largest balance. -/
theorem Amount.exists_iff {value : ℚ} : (∃ amount : Amount, amount.value.toRat = value) ↔
    0 < value ∧ value ≤ maxMoney.toRat ∧ ∃ units : ℕ, value = units / 10 ^ moneyScale := by
  constructor
  · rintro ⟨amount, rfl⟩
    exact ⟨amount.toRat_pos, amount.toRat_le, amount.exists_units⟩
  · rintro ⟨positive, bounded, units, rfl⟩
    refine exists_of_units (Nat.one_le_iff_ne_zero.mpr fun none => ?_) ?_
    · simp [none] at positive
    · rw [maxMoney_units] at bounded
      exact units_le_units.mp bounded

theorem Money.Counts.add? (counts : balance.Counts held)
    (worth : amount.value.toRat = moved / 10 ^ moneyScale) :
    ∃ sum, balance.value.add? amount.value = some sum ∧
      sum.toRat = (held + moved : ℕ) / 10 ^ moneyScale := by
  obtain ⟨sum, found, value, -⟩ := counts.storable.moderate.add? amount.moderate
  refine ⟨sum, found, ?_⟩
  rw [value, counts.exact, worth]
  push_cast
  ring

theorem Money.Counts.sub? (counts : balance.Counts held)
    (worth : amount.value.toRat = moved / 10 ^ moneyScale) :
    ∃ difference, balance.value.sub? amount.value = some difference ∧
      difference.toRat = ((held : ℤ) - moved : ℤ) / 10 ^ moneyScale := by
  obtain ⟨difference, found, value, -⟩ := counts.storable.moderate.add? amount.moderate.negate
  refine ⟨difference, found, ?_⟩
  rw [value, Decimal.toRat_negate, counts.exact, worth]
  push_cast
  ring

theorem Money.Counts.covers_iff (counts : balance.Counts held)
    (worth : amount.value.toRat = moved / 10 ^ moneyScale) :
    balance.covers amount = true ↔ moved ≤ held := by
  rw [Money.covers, Decimal.atMost_iff, counts.exact, worth]
  exact units_le_units

theorem Money.Counts.credit (counts : balance.Counts held)
    (worth : amount.value.toRat = moved / 10 ^ moneyScale) (fits : held + moved ≤ maxUnits) :
    ∃ next, balance.credit amount = .ok next ∧ next.Counts (held + moved) := by
  obtain ⟨sum, found, value⟩ := counts.add? worth
  have within : sum.atMost maxMoney = true := by
    rw [Decimal.atMost_iff, value, maxMoney_units]
    exact units_le_units.mpr fits
  refine ⟨.ofDecimal sum, ?_, counts_of_toRat ((toRat_ofDecimal sum).trans value) fits⟩
  simp only [Money.credit, found, within, if_true]

theorem Money.Counts.credit_refused (counts : balance.Counts held)
    (worth : amount.value.toRat = moved / 10 ^ moneyScale) (above : maxUnits < held + moved) :
    balance.credit amount = .error (.limitExceeded balance.value amount.value) := by
  obtain ⟨sum, found, value⟩ := counts.add? worth
  have beyond : sum.atMost maxMoney = false := by
    rw [Bool.eq_false_iff, Ne, Decimal.atMost_iff, value, maxMoney_units, units_le_units]
    exact Nat.not_le.mpr above
  simp only [Money.credit, found, beyond, Bool.false_eq_true, if_false]

theorem Money.Counts.debit (counts : balance.Counts held)
    (worth : amount.value.toRat = moved / 10 ^ moneyScale) (covered : moved ≤ held) :
    ∃ next, balance.debit amount = .ok next ∧ next.Counts (held - moved) := by
  obtain ⟨difference, found, value⟩ := counts.sub? worth
  have small : held ≤ maxUnits := by
    have upper := counts.storable.upper
    rwa [counts.exact, maxMoney_units, units_le_units] at upper
  have exact : difference.toRat = (held - moved : ℕ) / 10 ^ moneyScale := by
    rw [value, ← Nat.cast_sub covered]
    rfl
  refine ⟨.ofDecimal difference, ?_,
    counts_of_toRat ((toRat_ofDecimal difference).trans exact)
      ((Nat.sub_le held moved).trans small)⟩
  simp only [Money.debit, (counts.covers_iff worth).mpr covered, found, if_true]

theorem Money.Counts.debit_refused (counts : balance.Counts held)
    (worth : amount.value.toRat = moved / 10 ^ moneyScale) (uncovered : held < moved) :
    balance.debit amount = .error (.insufficientFunds balance.value amount.value) := by
  have short : balance.covers amount = false := by
    rw [Bool.eq_false_iff, Ne, counts.covers_iff worth]
    exact Nat.not_le.mpr uncovered
  simp only [Money.debit, short, Bool.false_eq_true, if_false]

/-- What it means that postings of an amount on a balance are exact, both counted in
ten-thousandths. -/
structure PostsUnits (balance : Money) (amount : Amount) (held moved : ℕ) : Prop where
  /-- The scales of the decimals that the balance and the amount were made of are of no account. -/
  held_at_any_scale : ∀ value : Decimal, value.toRat = held / 10 ^ moneyScale →
    Money.ofDecimal value = balance
  moved_at_any_scale : ∀ value : Decimal, value.toRat = moved / 10 ^ moneyScale →
    Amount.ofDecimal value = .ok amount
  bounds : 1 ≤ moved ∧ moved ≤ maxUnits
  /-- Neither the sum nor the difference is rounded or too large for a decimal, even if it is
  refused afterwards. -/
  sum : ∃ sum, balance.value.add? amount.value = some sum ∧
    sum.toRat = (held + moved : ℕ) / 10 ^ moneyScale
  difference : ∃ difference, balance.value.sub? amount.value = some difference ∧
    difference.toRat = ((held : ℤ) - moved : ℤ) / 10 ^ moneyScale
  credited : held + moved ≤ maxUnits → ∃ next, post balance .credit amount = .ok next ∧
    next.Counts (held + moved)
  limited : maxUnits < held + moved →
    post balance .credit amount = .error (.limitExceeded balance.value amount.value)
  debited : moved ≤ held → ∃ next, post balance .debit amount = .ok next ∧
    next.Counts (held - moved)
  uncovered : held < moved →
    post balance .debit amount = .error (.insufficientFunds balance.value amount.value)
  unviolated : ∀ kind reason, post balance kind amount ≠ .error (.invariantViolation reason)

/-- Postings on balances that can be stored add and subtract natural numbers of ten-thousandths. -/
theorem post_in_units (stored : balance.value.toRat = held / 10 ^ moneyScale)
    (small : held ≤ maxUnits) (worth : amount.value.toRat = moved / 10 ^ moneyScale) :
    PostsUnits balance amount held moved := by
  have counts := Money.counts_of_toRat stored small
  refine {
    held_at_any_scale := fun value same => Money.ofDecimal_eq (same.trans stored.symm)
    moved_at_any_scale := fun value same => Amount.ofDecimal_eq (same.trans worth.symm)
    bounds := amount.units_bounds worth
    sum := counts.add? worth
    difference := counts.sub? worth
    credited := counts.credit worth
    limited := counts.credit_refused worth
    debited := counts.debit worth
    uncovered := counts.debit_refused worth
    unviolated := fun kind reason refused => ?_ }
  cases kind with
  | credit =>
      rcases Nat.lt_or_ge maxUnits (held + moved) with above | fits
      · cases (counts.credit_refused worth above).symm.trans refused
      · obtain ⟨next, accepted, -⟩ := counts.credit worth fits
        cases accepted.symm.trans refused
  | debit =>
      rcases Nat.lt_or_ge held moved with uncovered | covered
      · cases (counts.debit_refused worth uncovered).symm.trans refused
      · obtain ⟨next, accepted, -⟩ := counts.debit worth covered
        cases accepted.symm.trans refused

/-- A balance one ten-thousandth below the largest one. -/
def sampleNearlyFull : Money :=
  .ofDecimal ⟨false, maxUnits - 1, moneyScale, by decide, maxMoney.scale_le⟩

/-- One half, at a coarser scale than the balance. -/
def sampleHalf : Amount :=
  ⟨⟨false, 5, 1, by decide, by decide⟩, by decide, by decide, by decide, by decide⟩

theorem post_in_units_sample :
    sampleNearlyFull.value.toRat = (maxUnits - 1 : ℕ) / 10 ^ moneyScale ∧
      sampleHalf.value.toRat = (5000 : ℕ) / 10 ^ moneyScale ∧
      post sampleNearlyFull .credit sampleHalf =
        .error (.limitExceeded sampleNearlyFull.value sampleHalf.value) ∧
      ∃ next, post sampleNearlyFull .debit sampleHalf = .ok next ∧
        next.Counts (maxUnits - 1 - 5000) := by
  have stored : sampleNearlyFull.value.toRat = (maxUnits - 1 : ℕ) / 10 ^ moneyScale :=
    (Decimal.toRat_normalise _).trans rfl
  have worth : sampleHalf.value.toRat = (5000 : ℕ) / 10 ^ moneyScale := by
    norm_num [Decimal.toRat, Decimal.coefficient, sampleHalf, moneyScale]
  have posts := post_in_units stored (by decide) worth
  exact ⟨stored, worth, posts.limited (by decide), posts.debited (by decide)⟩

end Passbook
