import Passbook.Proofs.Decimal.Sums

/-!
Chains of postings and their replay. A chain may start at any decimal, so that sums may be rounded:
each posting brings its balance into normal form and the replay does not, but what a rounded sum
denotes is the same. So replaying what a chain has accepted always ends in the balance of the chain.
-/

set_option autoImplicit false

namespace Passbook

variable {balance : Money} {entry : Entry} {start : Money} {entries : List Entry}

/-- A difference that a balance covers is a decimal. -/
theorem Money.exists_sub? {amount : Amount} (covered : balance.covers amount = true) :
    ∃ difference, balance.value.sub? amount.value = some difference := by
  have enough : amount.value.toRat ≤ balance.value.toRat := (Decimal.atMost_iff _ _).mp covered
  have size := abs_le.mp (Decimal.abs_toRat_le balance.value)
  refine Decimal.exists_add? (abs_le.mpr ⟨?_, ?_⟩) <;> rw [Decimal.toRat_negate] <;>
    linarith [amount.toRat_pos]

/-- What comes of posting a movement on a balance. The only refusals are those that the direction of
the movement knows. -/
inductive Ruling (balance : Money) (entry : Entry) : Except LedgerError Money → Prop
  | accepted {sum : Decimal} (found : balance.value.add? entry.signed = some sum)
      (nonneg : 0 ≤ balance.value.toRat → 0 ≤ sum.toRat) :
      Ruling balance entry (.ok (.ofDecimal sum))
  | limited (credit : entry.kind = .credit) :
      Ruling balance entry (.error (.limitExceeded balance.value entry.amount.value))
  | uncovered (debit : entry.kind = .debit) :
      Ruling balance entry (.error (.insufficientFunds balance.value entry.amount.value))

theorem post_ruling (balance : Money) (entry : Entry) :
    Ruling balance entry (post balance entry.kind entry.amount) := by
  have positive := entry.amount.toRat_pos
  cases kind : entry.kind with
  | credit =>
      have signed : entry.signed = entry.amount.value := by rw [Entry.signed, kind]
      rw [post, Money.credit]
      cases found : balance.value.add? entry.amount.value with
      | none => exact .limited kind
      | some sum =>
          simp only
          split
          · refine .accepted (by rw [signed, found]) fun nonneg => Decimal.add?_nonneg ?_ found
            linarith
          · exact .limited kind
  | debit =>
      have signed : entry.signed = entry.amount.value.negate := by rw [Entry.signed, kind]
      rw [post, Money.debit]
      split
      · next covered =>
          obtain ⟨difference, found⟩ := Money.exists_sub? covered
          rw [found]
          refine .accepted (by rw [signed, ← found, Decimal.sub?]) fun _ =>
            Decimal.add?_nonneg ?_ found
          have enough := (Decimal.atMost_iff _ _).mp covered
          rw [Decimal.toRat_negate]
          linarith
      · exact .uncovered kind

namespace Chain

/-- The chain of movements that can all be read. -/
def ofEntries (start : Money) (entries : List Entry) : Chain := ofMovements start (entries.map .ok)

theorem ofEntries_concat (start : Money) (entries : List Entry) (entry : Entry) :
    ofEntries start (entries ++ [entry]) = (ofEntries start entries).extend (.ok entry) := by
  rw [ofEntries, ofMovements, List.map_append, List.foldl_append]
  rfl

/-- What one more movement makes of a chain. -/
inductive Extends (chain : Chain) (entry : Entry) : Chain → Prop
  | accepts (balance : Money)
      (nonneg : chain.balance.isNegative = false → balance.isNegative = false) :
      Extends chain entry ⟨balance, entry :: chain.accepted, .ok balance :: chain.outcomes⟩
  | limits (credit : entry.kind = .credit) :
      Extends chain entry { chain with
        outcomes :=
          .error (.limitExceeded chain.balance.value entry.amount.value) :: chain.outcomes }
  | refuses (debit : entry.kind = .debit) :
      Extends chain entry { chain with
        outcomes :=
          .error (.insufficientFunds chain.balance.value entry.amount.value) :: chain.outcomes }

theorem extend_extends (chain : Chain) (entry : Entry) :
    Extends chain entry (chain.extend (.ok entry)) := by
  have ruling := post_ruling chain.balance entry
  rw [extend]
  generalize post chain.balance entry.kind entry.amount = outcome at ruling
  cases ruling with
  | accepted found nonneg =>
      refine .accepts _ fun before => ?_
      rw [Bool.eq_false_iff, Ne, Money.isNegative_iff, not_lt] at before ⊢
      rw [Money.toRat_ofDecimal]
      exact nonneg before
  | limited credit => exact .limits credit
  | uncovered debit => exact .refuses debit

/-- Whether what a chain has accepted adds up, without normal forms in between, to a decimal of the
value of its balance. -/
def AddsUp (start : Money) (chain : Chain) : Prop :=
  ∃ total, chain.accepted.reverse.foldlM (fun balance entry => balance.add? entry.signed)
    start.value = some total ∧
    total.toRat = chain.balance.value.toRat

theorem AddsUp.extend {chain : Chain} (adds : chain.AddsUp start) (entry : Entry) :
    (chain.extend (.ok entry)).AddsUp start := by
  obtain ⟨total, found, value⟩ := adds
  have ruling := post_ruling chain.balance entry
  rw [Chain.extend]
  generalize post chain.balance entry.kind entry.amount = outcome at ruling
  cases ruling with
  | @accepted sum posted nonneg =>
      -- The total has the value of the balance but perhaps another scale, so only the values of the
      -- two sums are compared.
      have same := Decimal.add?_congr value (rfl : entry.signed.toRat = _)
      rw [posted, Option.map_some, Option.map_eq_some_iff] at same
      obtain ⟨next, added, equal⟩ := same
      refine ⟨next, ?_, ?_⟩
      · rw [List.reverse_cons, List.foldlM_append, found]
        simp [added]
      · rw [equal, Money.toRat_ofDecimal]
  | limited credit => exact ⟨total, found, value⟩
  | uncovered debit => exact ⟨total, found, value⟩

theorem addsUp_ofEntries (start : Money) (entries : List Entry) :
    (ofEntries start entries).AddsUp start := by
  induction entries using List.reverseRecOn with
  | nil => exact ⟨start.value, rfl, rfl⟩
  | append_singleton entries entry ih =>
      rw [ofEntries_concat]
      exact ih.extend entry

theorem AddsUp.replay {chain : Chain} (adds : chain.AddsUp start) :
    replay start chain.accepted.reverse = .ok chain.balance := by
  obtain ⟨total, found, value⟩ := adds
  rw [Passbook.replay, found]
  exact congrArg Except.ok (Money.ofDecimal_eq value)

theorem isNegative_onwards (nonneg : (ofEntries start entries).balance.isNegative = false)
    (later : List Entry) :
    (ofEntries start (entries ++ later)).balance.isNegative = false := by
  induction later using List.reverseRecOn with
  | nil => rwa [List.append_nil]
  | append_singleton later entry ih =>
      rw [← List.append_assoc, ofEntries_concat]
      have extended := extend_extends (ofEntries start (entries ++ later)) entry
      generalize (ofEntries start (entries ++ later)).extend (.ok entry) = next at extended
      cases extended with
      | accepts balance kept => exact kept ih
      | limits credit => exact ih
      | refuses debit => exact ih

/-- What holds of the chain of some movements from a given start. -/
structure Sound (start : Money) (entries : List Entry) : Prop where
  /-- The next movement is accepted or refused for the one reason that its direction knows. -/
  next : ∀ entry, Extends (ofEntries start entries) entry (ofEntries start (entries ++ [entry]))
  /-- Once a balance is not negative it stays so. -/
  nonneg : (ofEntries start entries).balance.isNegative = false →
    ∀ later, (ofEntries start (entries ++ later)).balance.isNegative = false
  replayed : replay start (ofEntries start entries).accepted.reverse =
    .ok (ofEntries start entries).balance

end Chain

/-- Wherever a chain of postings starts, also at a balance that could not be stored, replaying what
it has accepted ends in its balance. -/
theorem chains_replayed (start : Money) (entries : List Entry) : Chain.Sound start entries where
  next entry := by
    rw [Chain.ofEntries_concat]
    exact Chain.extend_extends _ entry
  nonneg := Chain.isNegative_onwards
  replayed := (Chain.addsUp_ofEntries start entries).replay

end Passbook
