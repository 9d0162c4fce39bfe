import Mathlib.Data.List.Nodup
import Passbook.Proofs.Ledger.Reckoning
import Passbook.Proofs.Shared.Verdicts

/-!
The balance of every account is the sum of its credits less the sum of its debits, as rational
numbers, at every moment of a run in which only postings write balances and entries.
-/

set_option autoImplicit false

namespace Passbook

/-- What bookings add to a balance all in all. -/
def change (bookings : List (EntryId × EntryKind × Amount)) : ℚ :=
  (bookings.map fun booking => booking.2.1.change booking.2.2).sum

theorem change_append (one two : List (EntryId × EntryKind × Amount)) :
    change (one ++ two) = change one + change two := by
  rw [change, List.map_append, List.sum_append]
  rfl

theorem change_booking (entries : List Entry) :
    change (entries.map Shared.booking) = credits entries - debits entries := by
  rw [change, List.map_map, ← sum_changes]
  rfl

theorem Memory.Sound.account?_of_mem {memory : Memory} (sound : memory.Sound) {account : Account}
    (member : account ∈ memory.accounts) : memory.account? account.id = some account := by
  have nodup : (memory.accounts.map (·.id.value)).Nodup := sound.accounts.nodup none
  rw [account?]
  cases found : memory.accounts.find? fun other => other.id == account.id with
  | none =>
      have absent := List.find?_eq_none.mp found account member
      simp at absent
  | some other =>
      have same : other.id = account.id := id_of_find? found
      have isMember := List.mem_of_find?_eq_some found
      rw [List.inj_on_of_nodup_map nodup isMember member (congrArg AccountId.value same)]

namespace Shared

/-- Whether the balance of an account is that of its entries, and can be stored. -/
structure Reconciled (memory : Memory) (account : AccountId) : Prop where
  balance : (memory.balanceOf account).value.toRat = change ((memory.entriesOf account).map booking)
  storable : (memory.balanceOf account).Storable

variable {memory after : Memory} {account : AccountId}

theorem reconciled_empty (account : AccountId) : Reconciled .empty account where
  balance := by
    change Money.zero.value.toRat = change []
    rw [Money.toRat_zero]
    rfl
  storable := Money.storable_zero

theorem Reconciled.keeps (reconciled : Reconciled memory account) (keeps : memory.Keeps after) :
    Reconciled after account where
  balance := by rw [keeps.balances, keeps.entriesOf, reconciled.balance]
  storable := by
    rw [keeps.balances]
    exact reconciled.storable

private theorem post_of_judgement {posting : Posting} {balance next : Money}
    (allowed : posting.judgement balance = .ok next) :
    post balance posting.kind posting.amount = .ok next := by
  unfold Posting.judgement at allowed
  split at allowed
  · next posted =>
      cases allowed
      exact posted
  · cases allowed

/-- The posting that is decided changes its account by its amount if it is accepted, and no other
account. -/
theorem Reconciled.decides {verdict : Verdict} (reconciled : Reconciled memory account)
    (decides : Decides verdict memory after) : Reconciled after account := by
  have balance := decides.balance account
  have entries := decides.entries account
  have answer := decides.answer
  by_cases mine : account = verdict.posting.account
  · simp only [mine, if_true] at balance entries reconciled ⊢
    cases result : verdict.result with
    | error error =>
        have refused : verdict.posting.judgement (memory.balanceOf verdict.posting.account) =
            .error error := by
          rw [← answer, Verdict.answer, result]
          rfl
        have same : after.balanceOf verdict.posting.account =
            memory.balanceOf verdict.posting.account := by
          rw [balance, Posting.balanceAfter, refused]
        rw [Verdict.booked?, result, Option.toList_none, List.append_nil] at entries
        exact ⟨by rw [same, entries, reconciled.balance], same ▸ reconciled.storable⟩
    | ok receipt =>
        have allowed : verdict.posting.judgement (memory.balanceOf verdict.posting.account) =
            .ok receipt.balance := by
          rw [← answer, Verdict.answer, result]
          rfl
        have new : after.balanceOf verdict.posting.account = receipt.balance := by
          rw [balance, Posting.balanceAfter, allowed]
        obtain ⟨storable, exact⟩ := post_exact reconciled.storable (post_of_judgement allowed)
        rw [Verdict.booked?, result, Option.toList_some] at entries
        refine ⟨?_, new ▸ storable⟩
        rw [new, exact, entries, change_append, reconciled.balance]
        simp [change]
  · simp only [mine, if_false, List.append_nil] at balance entries
    exact ⟨by rw [balance, entries, reconciled.balance], balance ▸ reconciled.storable⟩

theorem reconciled_run {actions : List Action}
    (asked : Asks (fun request => request.isMild = true) actions) (account : AccountId) :
    Reconciled (run actions).memory account :=
  mild_induction asked (reconciled_empty account) Reconciled.keeps Reconciled.decides

/-- The balance of a committed account is the sum of its committed credits less that of its
committed debits. It is never negative, never larger than the largest amount, and has at most four
fractional digits. -/
theorem balances_reconciled (actions : List Action)
    (asked : Asks (fun request => request.isMild = true) actions) :
    ∀ account ∈ (run actions).memory.accounts,
      account.balance.value.toRat = credits ((run actions).memory.entriesOf account.id) -
          debits ((run actions).memory.entriesOf account.id) ∧
        0 ≤ account.balance.value.toRat ∧ account.balance.value.toRat ≤ maxMoney.toRat ∧
        account.balance.value.scale ≤ 4 := by
  intro account member
  have reconciled := reconciled_run asked account.id
  have stored : (run actions).memory.balanceOf account.id = account.balance := by
    rw [Memory.balanceOf, (owned_run actions).sound.account?_of_mem member]
    rfl
  rw [← stored, ← change_booking]
  exact ⟨reconciled.balance, reconciled.storable.lower, reconciled.storable.upper,
    reconciled.storable.fine⟩

theorem balances_reconciled_sample :
    (run sampleActions).memory.accounts.length = 1 ∧
      ∀ account ∈ (run sampleActions).memory.accounts, account.balance.value.toRat =
      credits ((run sampleActions).memory.entriesOf account.id) -
        debits ((run sampleActions).memory.entriesOf account.id) :=
  ⟨by decide +kernel,
    fun account member => (balances_reconciled sampleActions asks_sample account member).1⟩

end Shared

end Passbook
