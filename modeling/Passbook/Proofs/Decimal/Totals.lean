import Mathlib.Algebra.BigOperators.Group.List.Basic
import Passbook.Proofs.Decimal.Sums

/-!
Lists of decimals added up. If no sum on the way is too large for four fractional digits, the total
is exact and does not depend on the order, not even in its number of fractional digits. What a total
denotes depends on the number with which the addition starts and not on its scale, also where sums
are rounded.
-/

set_option autoImplicit false

namespace Passbook.Decimal

variable {α : Type} {worth : α → Decimal} {items others : List α} {start other total sum : Decimal}

/-- The decimals of a list, added one after the other to a start; none if a sum on the way is too
large. -/
def total? (worth : α → Decimal) (start : Decimal) (items : List α) : Option Decimal :=
  items.foldlM (fun sum item => sum.add? (worth item)) start

theorem total?_cons (worth : α → Decimal) (start : Decimal) (item : α) (items : List α) :
    total? worth start (item :: items) = (start.add? (worth item)).bind fun sum =>
      total? worth sum items := by
  rw [total?, List.foldlM_cons]
  rfl

theorem total?_append (worth : α → Decimal) (start : Decimal) (front back : List α) :
    total? worth start (front ++ back) = (total? worth start front).bind fun sum =>
      total? worth sum back := by
  rw [total?, List.foldlM_append]
  rfl

/-- Equal starts lead to equal totals, at whatever scales they are kept. -/
theorem total?_congr (same : start.toRat = other.toRat) (items : List α) :
    (total? worth start items).map toRat = (total? worth other items).map toRat := by
  induction items generalizing start other with
  | nil => exact congrArg some same
  | cons item items ih =>
      have sums := add?_congr same (rfl : (worth item).toRat = _)
      rw [total?_cons, total?_cons]
      cases one : start.add? (worth item) with
      | none =>
          rw [one, Option.map_none, eq_comm, Option.map_eq_none_iff] at sums
          rw [sums]
      | some sum =>
          rw [one, Option.map_some, eq_comm, Option.map_eq_some_iff] at sums
          obtain ⟨another, two, equal⟩ := sums
          rw [two]
          exact ih equal.symm

/-- The exact total, with as many fractional digits as the finest of the decimals. -/
structure IsTotal (worth : α → Decimal) (start : Decimal) (items : List α)
    (total : Decimal) : Prop where
  exact : total.toRat = start.toRat + (items.map fun item => (worth item).toRat).sum
  scale : total.scale = items.foldl (fun finest item => max finest (worth item).scale) start.scale
  unsigned : total.UnsignedZero

/-- The order does not matter to an exact total. -/
theorem IsTotal.unique (one : IsTotal worth start items total)
    (two : IsTotal worth start others sum) (order : items.Perm others) :
    total = sum := by
  refine one.unsigned.ext two.unsigned ?_ ?_
  · rw [one.scale, two.scale]
    exact order.foldl_eq' (fun _ _ _ _ _ => by omega) _
  · rw [one.exact, two.exact, (order.map _).sum_eq]

/-- The total is exact if all sums on the way, of at most four fractional digits, fit in a mantissa.
-/
theorem exists_total (unsigned : start.UnsignedZero) (coarse : start.scale ≤ moneyScale)
    (fine : ∀ item ∈ items, (worth item).scale ≤ moneyScale) (small : ∀ front, front <+: items →
      |start.toRat + (front.map fun item => (worth item).toRat).sum| * 10 ^ moneyScale <
        mantissaBound) :
    ∃ total, total? worth start items = some total ∧ IsTotal worth start items total := by
  induction items generalizing start with
  | nil => exact ⟨start, rfl, by simp, rfl, unsigned⟩
  | cons item items ih =>
      have first : |start.toRat + (worth item).toRat| * 10 ^ moneyScale < mantissaBound := by
        simpa using small [item] (by simp)
      obtain ⟨next, added, value, scale⟩ := add?_fine coarse (fine item List.mem_cons_self) first
      have later : ∀ front, front <+: items →
          |next.toRat + (front.map fun item => (worth item).toRat).sum| * 10 ^ moneyScale <
            mantissaBound := by
        intro front isFront
        have whole := small (item :: front) (List.cons_prefix_cons.mpr ⟨rfl, isFront⟩)
        rwa [List.map_cons, List.sum_cons, ← add_assoc, ← value] at whole
      obtain ⟨total, found, isTotal⟩ := ih (add?_unsignedZero added)
        (scale ▸ Nat.max_le.mpr ⟨coarse, fine item List.mem_cons_self⟩)
          (fun item member => fine item (List.mem_cons_of_mem _ member)) later
      refine ⟨total, ?_, ?_, ?_, isTotal.unsigned⟩
      · rw [total?_cons, added]
        exact found
      · rw [isTotal.exact, value, List.map_cons, List.sum_cons, add_assoc]
      · rw [isTotal.scale, scale, List.foldl_cons]

end Passbook.Decimal
