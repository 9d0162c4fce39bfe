import Mathlib.Algebra.Order.BigOperators.Group.List
import Passbook.Proofs.Decimal.Totals
import Passbook.Proofs.Decimal.Units

/-!
What a history comes to. The totals of a statement, the replay of its entries and its consistency
are three ways to add up the same movements; while credits and debits both fit in ten-thousandths,
they are exact and agree, in whatever order the entries stand. That a replay can be continued from
where it stopped does not depend on exactness.
-/

set_option autoImplicit false

namespace Passbook

/-!
## Sums of movements
-/

def credits (entries : List Entry) : ℚ :=
  ((entries.filter fun entry => entry.kind = .credit).map (·.amount.value.toRat)).sum

def debits (entries : List Entry) : ℚ :=
  ((entries.filter fun entry => entry.kind = .debit).map (·.amount.value.toRat)).sum

variable {entries front order : List Entry}

theorem Entry.toRat_signed (entry : Entry) :
    entry.signed.toRat = entry.kind.change entry.amount := by
  cases kind : entry.kind with
  | credit => rw [signed, kind, EntryKind.change]
  | debit => rw [signed, kind, EntryKind.change, Decimal.toRat_negate]

theorem Entry.fine_signed (entry : Entry) : entry.signed.scale ≤ moneyScale := by
  cases kind : entry.kind with
  | credit =>
      rw [signed, kind]
      exact entry.amount.fine
  | debit =>
      rw [signed, kind]
      exact entry.amount.fine

/-- Movements add up to the credits less the debits. -/
theorem sum_changes (entries : List Entry) :
    (entries.map fun entry => entry.kind.change entry.amount).sum =
      credits entries - debits entries := by
  induction entries with
  | nil => simp [credits, debits]
  | cons entry later ih =>
      rw [List.map_cons, List.sum_cons, ih]
      cases kind : entry.kind <;> simp [credits, debits, EntryKind.change, kind] <;> ring

theorem credits_perm (isOrder : order.Perm entries) : credits order = credits entries :=
  ((isOrder.filter _).map _).sum_eq

theorem debits_perm (isOrder : order.Perm entries) : debits order = debits entries :=
  ((isOrder.filter _).map _).sum_eq

/-- Amounts at the beginning of a list come to no more than all of them. -/
theorem sum_amounts_le (isFront : front.Sublist entries) :
    (front.map (·.amount.value.toRat)).sum ≤ (entries.map (·.amount.value.toRat)).sum := by
  refine (isFront.map _).sum_le_sum fun value member => ?_
  obtain ⟨entry, -, rfl⟩ := List.mem_map.mp member
  exact entry.amount.toRat_pos.le

theorem sum_amounts_nonneg (entries : List Entry) : 0 ≤ (entries.map (·.amount.value.toRat)).sum :=
  sum_amounts_le (List.nil_sublist entries)

/-!
## Totals and replays
-/

/-- Amounts that come to less than `2 ^ 96` ten-thousandths are added up exactly. -/
theorem exists_total_amounts (movements : List Entry)
    (small : (movements.map (·.amount.value.toRat)).sum * 10 ^ moneyScale < mantissaBound) :
    ∃ total, Decimal.total? (·.amount.value) .zero movements = some total ∧
      Decimal.IsTotal (·.amount.value) .zero movements total := by
  refine Decimal.exists_total (fun signed => by cases signed) (Nat.zero_le _)
    (fun entry _ => entry.amount.fine) fun front isFront => ?_
  rw [Decimal.toRat_zero, zero_add, abs_of_nonneg (sum_amounts_nonneg front)]
  have most := sum_amounts_le isFront.sublist
  calc (front.map (·.amount.value.toRat)).sum * 10 ^ moneyScale
      ≤ (movements.map (·.amount.value.toRat)).sum * 10 ^ moneyScale :=
        mul_le_mul_of_nonneg_right most (by positivity)
    _ < mantissaBound := small

/-- On its way a replay is never further from zero than the larger one of the sums of credits and of
debits. -/
theorem exists_total_signed (credited : credits entries * 10 ^ moneyScale < mantissaBound)
    (debited : debits entries * 10 ^ moneyScale < mantissaBound) :
    ∃ total, Decimal.total? Entry.signed .zero entries = some total ∧
      Decimal.IsTotal Entry.signed .zero entries total := by
  refine Decimal.exists_total (fun signed => by cases signed) (Nat.zero_le _)
    (fun entry _ => entry.fine_signed) fun front isFront => ?_
  have unit : (0 : ℚ) < 10 ^ moneyScale := by positivity
  have mostCredits : credits front ≤ credits entries := sum_amounts_le (isFront.sublist.filter _)
  have mostDebits : debits front ≤ debits entries := sum_amounts_le (isFront.sublist.filter _)
  have someCredits : 0 ≤ credits front := sum_amounts_nonneg _
  have someDebits : 0 ≤ debits front := sum_amounts_nonneg _
  have sum : (front.map fun entry => entry.signed.toRat).sum = credits front - debits front := by
    simp only [Entry.toRat_signed, sum_changes]
  have size : |credits front - debits front| ≤ max (credits entries) (debits entries) := by
    refine abs_le.mpr ⟨?_, ?_⟩
    · linarith [le_max_right (credits entries) (debits entries)]
    · linarith [le_max_left (credits entries) (debits entries)]
  rw [Decimal.toRat_zero, zero_add, sum]
  calc |credits front - debits front| * 10 ^ moneyScale
      ≤ max (credits entries) (debits entries) * 10 ^ moneyScale :=
        mul_le_mul_of_nonneg_right size unit.le
    _ = max (credits entries * 10 ^ moneyScale) (debits entries * 10 ^ moneyScale) :=
      max_mul_of_nonneg _ _ unit.le
    _ < mantissaBound := max_lt credited debited

/-- The entries of one direction. -/
def ofKind (kind : EntryKind) (entries : List Entry) : List Entry :=
  entries.filter fun entry => entry.kind = kind

/-- One more entry in the totals of credits and of debits. -/
def addTo (totals : Decimal × Decimal) (entry : Entry) : Option (Decimal × Decimal) :=
  match entry.kind with
  | .credit => (totals.1.add? entry.amount.value).map fun credits => (credits, totals.2)
  | .debit => (totals.2.add? entry.amount.value).map fun debits => (totals.1, debits)

/-- The two totals are added up beside each other; they exist if both of them do. -/
private theorem foldlM_addTo (entries : List Entry) (credits debits : Decimal) :
    entries.foldlM addTo (credits, debits) =
      (Decimal.total? (·.amount.value) credits (ofKind .credit entries)).bind fun credits =>
      (Decimal.total? (·.amount.value) debits (ofKind .debit entries)).map fun debits =>
        (credits, debits) := by
  induction entries generalizing credits debits with
  | nil => rfl
  | cons entry later ih =>
      rw [List.foldlM_cons, addTo]
      cases kind : entry.kind with
      | credit =>
          have credited : ofKind .credit (entry :: later) = entry :: ofKind .credit later := by
            simp [ofKind, kind]
          have debited : ofKind .debit (entry :: later) = ofKind .debit later := by
            simp [ofKind, kind]
          rw [credited, debited, Decimal.total?_cons]
          cases credits.add? entry.amount.value with
          | none => rfl
          | some sum => exact ih sum debits
      | debit =>
          have credited : ofKind .credit (entry :: later) = ofKind .credit later := by
            simp [ofKind, kind]
          have debited : ofKind .debit (entry :: later) = entry :: ofKind .debit later := by
            simp [ofKind, kind]
          rw [credited, debited, Decimal.total?_cons]
          cases debits.add? entry.amount.value with
          | none => cases Decimal.total? (·.amount.value) credits (ofKind .credit later) <;> rfl
          | some sum => exact ih credits sum

theorem Statement.totals?_eq (statement : Statement) :
    statement.totals? =
      (Decimal.total? (·.amount.value) .zero (ofKind .credit statement.entries)).bind fun credits =>
      (Decimal.total? (·.amount.value) .zero (ofKind .debit statement.entries)).map fun debits =>
        (credits, debits) :=
  foldlM_addTo statement.entries .zero .zero

theorem replay_eq (start : Money) (entries : List Entry) :
    replay start entries = match Decimal.total? Entry.signed start.value entries with
      | some balance => .ok (.ofDecimal balance)
      | none => .error (.invariantViolation "ledger replay overflow") := rfl

theorem replay_exact (credited : credits entries * 10 ^ moneyScale < mantissaBound)
    (debited : debits entries * 10 ^ moneyScale < mantissaBound) :
    ∃ balance, replay .zero entries = .ok balance ∧
      balance.value.toRat = credits entries - debits entries := by
  obtain ⟨total, found, isTotal⟩ := exists_total_signed credited debited
  have start : Money.zero.value = .zero := rfl
  refine ⟨.ofDecimal total, ?_, ?_⟩
  · rw [replay_eq, start, found]
  · rw [Money.toRat_ofDecimal, isTotal.exact, Decimal.toRat_zero, zero_add, ← sum_changes]
    simp only [Entry.toRat_signed]

theorem replay_perm (credited : credits entries * 10 ^ moneyScale < mantissaBound)
    (debited : debits entries * 10 ^ moneyScale < mantissaBound) (isOrder : order.Perm entries) :
    replay .zero order = replay .zero entries := by
  obtain ⟨balance, replayed, value⟩ := replay_exact credited debited
  rw [← credits_perm isOrder] at credited
  rw [← debits_perm isOrder] at debited
  obtain ⟨other, otherReplayed, otherValue⟩ := replay_exact credited debited
  rw [replayed, otherReplayed, Except.ok.injEq, Money.eq_iff, value, otherValue,
    credits_perm isOrder, debits_perm isOrder]

/-- A replay goes on from where another one has stopped, although there the sum so far is brought
into normal form. -/
theorem replay_append (start : Money) (front back : List Entry) :
    replay start (front ++ back) = (replay start front).bind fun middle => replay middle back := by
  rw [replay_eq, replay_eq, Decimal.total?_append]
  cases Decimal.total? Entry.signed start.value front with
  | none => rfl
  | some sum =>
      have same : (Decimal.total? Entry.signed (Money.ofDecimal sum).value back).map Decimal.toRat =
          (Decimal.total? Entry.signed sum back).map Decimal.toRat :=
            Decimal.total?_congr (Money.toRat_ofDecimal sum) back
      change _ = replay (.ofDecimal sum) back
      rw [replay_eq, Option.bind_some]
      cases one : Decimal.total? Entry.signed (Money.ofDecimal sum).value back with
      | none =>
          rw [one, Option.map_none, eq_comm, Option.map_eq_none_iff] at same
          rw [same]
      | some total =>
          rw [one, Option.map_some, eq_comm, Option.map_eq_some_iff] at same
          obtain ⟨another, two, equal⟩ := same
          rw [two]
          exact congrArg Except.ok (Money.ofDecimal_eq_iff.mpr equal)

/-!
## Statements
-/

namespace Statement

variable {statement : Statement}

/-- The two totals of a statement. -/
structure Totals (statement : Statement) (totals : Decimal × Decimal) : Prop where
  credited : Decimal.IsTotal (·.amount.value) .zero (ofKind .credit statement.entries) totals.1
  debited : Decimal.IsTotal (·.amount.value) .zero (ofKind .debit statement.entries) totals.2

theorem exists_totals (statement : Statement)
    (credited : credits statement.entries * 10 ^ moneyScale < mantissaBound)
    (debited : debits statement.entries * 10 ^ moneyScale < mantissaBound) :
    ∃ totals, statement.totals? = some totals ∧ statement.Totals totals := by
  obtain ⟨one, creditTotal, isCreditTotal⟩ :=
    exists_total_amounts (ofKind .credit statement.entries) credited
  obtain ⟨two, debitTotal, isDebitTotal⟩ :=
    exists_total_amounts (ofKind .debit statement.entries) debited
  refine ⟨(one, two), ?_, isCreditTotal, isDebitTotal⟩
  rw [totals?_eq, creditTotal, Option.bind_some, debitTotal, Option.map_some]

theorem totals?_perm (credited : credits statement.entries * 10 ^ moneyScale < mantissaBound)
    (debited : debits statement.entries * 10 ^ moneyScale < mantissaBound)
    (isOrder : order.Perm statement.entries) :
    (Statement.mk statement.account order).totals? = statement.totals? := by
  obtain ⟨totals, added, isTotals⟩ := exists_totals statement credited debited
  rw [← credits_perm isOrder] at credited
  rw [← debits_perm isOrder] at debited
  obtain ⟨others, otherAdded, isOthers⟩ := exists_totals ⟨statement.account, order⟩ credited debited
  have sameCredits : others.1 = totals.1 :=
    isOthers.credited.unique isTotals.credited (isOrder.filter _)
  have sameDebits : others.2 = totals.2 :=
    isOthers.debited.unique isTotals.debited (isOrder.filter _)
  rw [added, otherAdded, Prod.ext sameCredits sameDebits]

/-- What the history of a statement comes to. -/
structure Reckoned (statement : Statement) : Prop where
  totals : ∃ credited debited, statement.totals? = some (credited, debited) ∧
    credited.toRat = credits statement.entries ∧ debited.toRat = debits statement.entries
  replayed : ∃ balance, replay .zero statement.entries = .ok balance ∧
    balance.value.toRat = credits statement.entries - debits statement.entries
  /-- Even the numbers of fractional digits of the totals are the same in any order. -/
  reordered : ∀ order : List Entry, order.Perm statement.entries →
    (Statement.mk statement.account order).totals? = statement.totals? ∧
      replay .zero order = replay .zero statement.entries
  continued : ∀ (start : Money) (front back : List Entry),
    replay start (front ++ back) = (replay start front).bind fun middle => replay middle back
  consistent_iff : statement.isConsistent = true ↔
    statement.account.balance.value.toRat = credits statement.entries - debits statement.entries

/-- The three ways to add up a history agree as long as credits and debits each come to less than
`2 ^ 96` ten-thousandths. -/
theorem statements_reckoned (statement : Statement)
    (credited : credits statement.entries * 10 ^ moneyScale < 2 ^ 96)
    (debited : debits statement.entries * 10 ^ moneyScale < 2 ^ 96) : statement.Reckoned := by
  have bound : (2 ^ 96 : ℚ) = mantissaBound := by norm_num [mantissaBound, twoTo]
  rw [bound] at credited debited
  obtain ⟨totals, added, isTotals⟩ := exists_totals statement credited debited
  obtain ⟨balance, replayed, value⟩ := replay_exact credited debited
  refine {
    totals := ⟨totals.1, totals.2, added, ?_, ?_⟩
    replayed := ⟨balance, replayed, value⟩
    reordered :=
      fun order isOrder =>
        ⟨totals?_perm credited debited isOrder, replay_perm credited debited isOrder⟩
    continued := replay_append
    consistent_iff := ?_ }
  · rw [isTotals.credited.exact, Decimal.toRat_zero, zero_add]
    rfl
  · rw [isTotals.debited.exact, Decimal.toRat_zero, zero_add]
    rfl
  · rw [isConsistent, Statement.replayed, replayed]
    change (balance == statement.account.balance) = true ↔ _
    rw [beq_iff_eq, Money.eq_iff, value, eq_comm]

/-- Three ten-thousandths, as a debit. -/
def sampleDebit : Entry :=
  ⟨⟨1⟩, some ⟨1⟩, ⟨⟨false, 3, 4, by decide, by decide⟩, by decide, by decide, by decide, by decide⟩,
    .debit, default⟩

/-- One half, as a credit. -/
def sampleCredit : Entry := ⟨⟨2⟩, some ⟨1⟩, sampleHalf, .credit, default⟩

/-- An account from which more is taken than there is, before it gets something. -/
def sampleOverdrawn : Statement :=
  ⟨⟨⟨1⟩, "alice", "hash", .ofDecimal ⟨false, 4997, 4, by decide, by decide⟩⟩,
    [sampleDebit, sampleCredit]⟩

/-- The sum on the way is negative, and the balance is the one that is stored. -/
theorem statements_reckoned_sample :
    credits sampleOverdrawn.entries * 10 ^ moneyScale < 2 ^ 96 ∧
      debits sampleOverdrawn.entries * 10 ^ moneyScale < 2 ^ 96 ∧
      credits sampleOverdrawn.entries - debits sampleOverdrawn.entries = 4997 / 10 ^ 4 ∧
        sampleOverdrawn.isConsistent = true := by
  have credited : credits sampleOverdrawn.entries = 1 / 2 := by
    change sampleHalf.value.toRat + 0 = _
    norm_num [sampleHalf, Decimal.toRat, Decimal.coefficient]
  have debited : debits sampleOverdrawn.entries = 3 / 10 ^ 4 := by
    change sampleDebit.amount.value.toRat + 0 = _
    norm_num [sampleDebit, Decimal.toRat, Decimal.coefficient]
  have few : credits sampleOverdrawn.entries * 10 ^ moneyScale < 2 ^ 96 := by
    norm_num [credited, moneyScale]
  have fewer : debits sampleOverdrawn.entries * 10 ^ moneyScale < 2 ^ 96 := by
    norm_num [debited, moneyScale]
  have difference : credits sampleOverdrawn.entries - debits sampleOverdrawn.entries =
      4997 / 10 ^ 4 := by
    rw [credited, debited]
    norm_num
  refine ⟨few, fewer, difference,
    (statements_reckoned sampleOverdrawn few fewer).consistent_iff.mpr ?_⟩
  rw [difference]
  exact Money.toRat_ofDecimal _

end Statement

end Passbook
