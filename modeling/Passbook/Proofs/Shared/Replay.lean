import Passbook.Proofs.Decimal.Normal
import Passbook.Proofs.Shared.Reconciled

/-!
Replaying a history. The sums on the way are the balances that the account has had, so none of them
overflows, and the last one is the balance that is committed with the history.
-/

set_option autoImplicit false

namespace Passbook.Shared

/-- What a booking adds to a balance, as a decimal. -/
def signedBooking (booking : EntryId × EntryKind × Amount) : Decimal :=
  match booking.2.1 with
  | .credit => booking.2.2.value
  | .debit => booking.2.2.value.negate

/-- The balance after bookings, if no sum on the way is too large. -/
def tally? (bookings : List (EntryId × EntryKind × Amount)) : Option Decimal :=
  bookings.foldlM (fun balance booking => balance.add? (signedBooking booking)) Money.zero.value

theorem tally?_concat (bookings : List (EntryId × EntryKind × Amount))
    (booking : EntryId × EntryKind × Amount) :
    tally? (bookings ++ [booking]) = (tally? bookings).bind fun balance =>
      balance.add? (signedBooking booking) := by
  rw [tally?, List.foldlM_append]
  simp only [List.foldlM_cons, List.foldlM_nil, bind_pure]
  rfl

theorem tally?_booking (entries : List Entry) :
    tally? (entries.map booking) = entries.foldlM (fun balance entry => balance.add? entry.signed)
      Money.zero.value := by
  rw [tally?, List.foldlM_map]
  rfl

theorem toRat_signedBooking (booking : EntryId × EntryKind × Amount) :
    (signedBooking booking).toRat = booking.2.1.change booking.2.2 := by
  obtain ⟨id, kind, amount⟩ := booking
  cases kind with
  | credit => rfl
  | debit => exact Decimal.toRat_negate amount.value

theorem moderate_signedBooking (booking : EntryId × EntryKind × Amount) :
    (signedBooking booking).Moderate := by
  obtain ⟨id, kind, amount⟩ := booking
  cases kind with
  | credit => exact amount.moderate
  | debit => exact amount.moderate.negate

/-- Whether the history of an account can be replayed, and gives its balance. -/
structure Replayed (memory : Memory) (account : AccountId) : Prop where
  reconciled : Reconciled memory account
  total : ∃ total, tally? ((memory.entriesOf account).map booking) = some total ∧
    total.toRat = (memory.balanceOf account).value.toRat ∧ total.scale ≤ moneyScale

variable {memory after : Memory} {account : AccountId}

theorem replayed_empty (account : AccountId) : Replayed .empty account where
  reconciled := reconciled_empty account
  total := ⟨Money.zero.value, rfl, rfl, Money.storable_zero.fine⟩

theorem Replayed.keeps (replayed : Replayed memory account) (keeps : memory.Keeps after) :
    Replayed after account where
  reconciled := replayed.reconciled.keeps keeps
  total := by
    rw [keeps.entriesOf, keeps.balances]
    exact replayed.total

/-- A booking that leaves a balance which can be stored can be added. -/
private theorem Replayed.books {booked : EntryId × EntryKind × Amount}
    (replayed : Replayed memory account) (reconciled : Reconciled after account)
    (entries : (after.entriesOf account).map booking =
      (memory.entriesOf account).map booking ++ [booked]) :
    Replayed after account where
  reconciled := reconciled
  total := by
    obtain ⟨total, tallied, exact, fine⟩ := replayed.total
    have storable := replayed.reconciled.storable.moderate
    have moderate : total.Moderate := ⟨exact ▸ storable.lower, exact ▸ storable.upper, fine⟩
    obtain ⟨sum, added, value, scale⟩ := moderate.add? (moderate_signedBooking booked)
    refine ⟨sum, by rw [entries, tally?_concat, tallied]; exact added, ?_, scale⟩
    rw [value, exact, toRat_signedBooking, reconciled.balance, replayed.reconciled.balance,
      entries, change_append]
    simp [change]

theorem Replayed.decides {verdict : Verdict} (replayed : Replayed memory account)
    (decides : Decides verdict memory after) :
    Replayed after account := by
  have reconciled := replayed.reconciled.decides decides
  have entries := decides.entries account
  have same : (after.entriesOf account).map booking = (memory.entriesOf account).map booking →
      Replayed after account := by
    intro unchanged
    refine ⟨reconciled, ?_⟩
    rw [unchanged, reconciled.balance, unchanged, ← replayed.reconciled.balance]
    exact replayed.total
  split at entries
  · cases booked : verdict.booked? with
    | none => exact same (by simpa [booked] using entries)
    | some new => exact replayed.books reconciled (by simpa [booked] using entries)
  · exact same (by simpa using entries)

theorem replayed_run {actions : List Action}
    (asked : Asks (fun request => request.isMild = true) actions) (account : AccountId) :
    Replayed (run actions).memory account :=
  mild_induction asked (replayed_empty account) Replayed.keeps Replayed.decides

/-- The committed row of an account agrees with its committed history. -/
theorem Replayed.isConsistent {row : Account} (replayed : Replayed memory account)
    (committed : memory.account? account = some row) :
    Statement.isConsistent ⟨row, memory.entriesOf account⟩ = true := by
  obtain ⟨total, tallied, exact, fine⟩ := replayed.total
  have balance : memory.balanceOf account = row.balance := by
    rw [Memory.balanceOf, committed]
    rfl
  have same : Money.ofDecimal total = row.balance :=
    Money.ofDecimal_eq (exact.trans (by rw [balance]))
  rw [tally?_booking] at tallied
  rw [Statement.isConsistent, Statement.replayed, replay, tallied]
  change (Money.ofDecimal total == row.balance) = true
  rw [same]
  exact beq_self_eq_true row.balance

end Passbook.Shared
