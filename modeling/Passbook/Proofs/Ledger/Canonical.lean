import Mathlib.Tactic.TFAE
import Passbook.Proofs.Json.Ledger

/-!
Balances as canonical forms. A number can be kept as many decimals, and zero moreover with two
signs, but as one balance. So equality, order, sign and both texts of a balance are those of the
number, and whatever is computed of the decimal in a balance is the same for equal balances.
-/

set_option autoImplicit false

namespace Passbook.Money

open Json (Source)

variable {one other : Decimal}

theorem read_render (balance : Money) :
    Decimal.read balance.render.toList = some balance.value := by
  rw [render, Decimal.render, String.toList_ofList, balance.normal.read_toChars]

theorem render_injective : Function.Injective render := by
  intro one other same
  have read := congrArg (fun text => Decimal.read text.toList) same
  simp only [read_render, Option.some.injEq] at read
  rw [eq_iff, read]

theorem writeJson_injective :
    Function.Injective fun balance : Money => balance.value.writeJson := by
  intro one other same
  have read := congrArg (fun text => readJson (Source.ofChars text ++ [])) same
  simp only [readJson_writeJson, Except.ok.injEq, Prod.mk.injEq, and_true] at read
  exact read

theorem compare_ofDecimal (one other : Decimal) :
    (ofDecimal one).value.compare (ofDecimal other).value = Ord.compare one.toRat other.toRat := by
  rw [Decimal.compare_toRat, toRat_ofDecimal, toRat_ofDecimal]

/-- What the balances of two decimals have in common, and how they are told apart. -/
structure Canonical (one other : Decimal) : Prop where
  /-- Decimals of equal value, equal balances, compared by value or part by part, and equal texts
  are the same thing. -/
  alike : [one.compare other = .eq,
    one.toRat = other.toRat,
    (ofDecimal one).value.compare (ofDecimal other).value = .eq,
    ofDecimal one = ofDecimal other,
    (ofDecimal one).render = (ofDecimal other).render,
    (ofDecimal one).value.writeJson = (ofDecimal other).value.writeJson].TFAE
  /-- No hash tells two equal balances apart, whatever parts of a decimal it depends on. -/
  hashed : ∀ {α : Type} (hash : Decimal → α),
    (ofDecimal one).value.compare (ofDecimal other).value = .eq →
    hash (ofDecimal one).value = hash (ofDecimal other).value
  ordered : (ofDecimal one).value.compare (ofDecimal other).value =
    Ord.compare one.toRat other.toRat
  negative_iff : (ofDecimal one).isNegative = true ↔ one.toRat < 0
  reread : ∀ balance : Money, ∃ value, Decimal.read balance.render.toList = some value ∧
    ofDecimal value = balance

/-- Whatever their signs, mantissas and scales, two decimals are the same balance exactly if they
denote the same number. -/
theorem balances_canonical (one other : Decimal) : Canonical one other where
  alike := by
    tfae_have 1 ↔ 2 := Decimal.compare_eq_iff one other
    tfae_have 3 ↔ 2 := by
      rw [compare_ofDecimal, compare_eq_iff_eq]
    tfae_have 4 ↔ 2 := ofDecimal_eq_iff
    tfae_have 5 ↔ 4 := render_injective.eq_iff
    tfae_have 6 ↔ 4 := writeJson_injective.eq_iff
    tfae_finish
  hashed hash same := by
    rw [compare_ofDecimal, compare_eq_iff_eq, ← ofDecimal_eq_iff] at same
    rw [same]
  ordered := compare_ofDecimal one other
  negative_iff := by
    rw [isNegative_iff, toRat_ofDecimal]
  reread balance := ⟨balance.value, read_render balance, ofDecimal_eq rfl⟩

end Passbook.Money
