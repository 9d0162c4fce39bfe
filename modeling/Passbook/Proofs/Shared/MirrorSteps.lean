import Passbook.Proofs.Memory.MirrorCalls
import Passbook.Proofs.Shared.Standing

/-!
Steps of calls in two worlds whose ledgers agree about an account. A call about the account comes
equally far in both; a step of a call about another account changes nothing that the other world
shows.
-/

set_option autoImplicit false

namespace Passbook

open Memory (Progress Alongside Agree Level)
open Shared (Course)

/-- Whether two results are the same error, or successes that are related. -/
inductive SameResult {ε α : Type} (same : α → α → Prop) : Except ε α → Except ε α → Prop
  | fails (error : ε) : SameResult same (.error error) (.error error)
  | succeeds {one other : α} (related : same one other) : SameResult same (.ok one) (.ok other)

/-- Whether two calls have come equally far. -/
inductive Shared.Course.Level {κ ρ : Type} (calls : κ → κ → Prop)
    (results : ρ → ρ → Prop) : Course κ ρ → Course κ ρ → Prop
  | running {one other : κ} (related : calls one other) :
      Level calls results (.running one) (.running other)
  | ended {one other : ρ} (related : results one other) :
      Level calls results (.ended one) (.ended other)
  | dropped : Level calls results .dropped .dropped

variable {pairing : Pairing} {row : AccountId} {whole part : World Memory} {unit twin : UnitId}
  {drawn : Nat}

theorem Memory.Alongside.report (along : Alongside pairing row whole part)
    (event other : Log.Event) :
    Alongside pairing row (whole.report event) (part.report other) :=
  ⟨along.now, along.cancelled, along.store⟩

theorem Memory.Alongside.reportWhole (along : Alongside pairing row whole part)
    (event : Log.Event) :
    Alongside pairing row (whole.report event) part := ⟨along.now, along.cancelled, along.store⟩

theorem Memory.Alongside.interruption (along : Alongside pairing row whole part)
    (context : CallContext) :
    context.interruption whole = context.interruption part := by
  have used : whole.isCancelled = part.isCancelled := by
    funext token
    rw [World.isCancelled, World.isCancelled, along.cancelled]
  rw [CallContext.interruption, CallContext.interruption, used, along.now]

theorem Memory.Agree.after {α β : Type} {related : Pairing → α → β → Prop} {later : Pairing}
    {one : α × World Memory} {other : β × World Memory}
    (agree : Agree later row drawn related one other) (grows : pairing.Grows later drawn) :
    Agree pairing row drawn related one other := by
  obtain ⟨last, growsOn, same, along⟩ := agree
  exact ⟨last, grows.trans growsOn (Nat.le_refl drawn), same, along⟩

/-!
## Postings
-/

/-- Whether two receipts are the same, but for the identifiers of their entries. -/
structure Receipt.Same (renumbering : Renumbering) (one other : Receipt) : Prop where
  entries : renumbering.renames one.entry other.entry
  balances : one.balance = other.balance

theorem Receipt.Same.grows {one other : Receipt} {later : Pairing}
    (same : one.Same pairing.entries other) (grows : pairing.Grows later drawn) :
    one.Same later.entries other := ⟨grows.entries same.entries, same.balances⟩

namespace Posting

/-- Whether two postings have come equally far, with units that correspond to each other. -/
inductive Phase.Level (pairing : Pairing) : Phase UnitId Progress → Phase UnitId Progress → Prop
  | opening (progress : Progress) : Level pairing (.opening progress) (.opening progress)
  | locking {unit twin : UnitId} (paired : pairing.units unit twin) (progress : Progress) :
      Level pairing (.locking unit progress) (.locking twin progress)
  | writing {unit twin : UnitId} (paired : pairing.units unit twin) (balance : Money)
      (progress : Progress) :
      Level pairing (.writing unit balance progress) (.writing twin balance progress)
  | appending {unit twin : UnitId} (paired : pairing.units unit twin) (balance : Money)
      (progress : Progress) :
      Level pairing (.appending unit balance progress) (.appending twin balance progress)
  | committing {unit twin : UnitId} {receipt other : Receipt} (paired : pairing.units unit twin)
      (same : receipt.Same pairing.entries other) (progress : Progress) :
      Level pairing (.committing unit receipt progress) (.committing twin other progress)
  | undoing {unit twin : UnitId} (paired : pairing.units unit twin) (cause : PostingError)
      (progress : Progress) :
      Level pairing (.undoing unit cause progress) (.undoing twin cause progress)

/-- Whether two postings are equally far after a turn. -/
def TurnLevel (pairing : Pairing) (one other : Turn (Phase UnitId Progress) Result) : Prop :=
  Course.Level (Phase.Level pairing) (SameResult (Receipt.Same pairing.entries))
    (.ofTurn one) (.ofTurn other)

variable {posting : Posting}

theorem guarded_agree {α : Type} {same : Pairing → α → α → Prop} (posting : Posting)
    (along : Alongside pairing row whole part) (stage : Stage)
    (giveUp other : World Memory → World Memory)
    (call another : World Memory → Poll Progress (Except StoreError α) × World Memory)
    (left : Alongside pairing row (giveUp whole) (other part))
    (called : Agree pairing row drawn (fun later => Level (same later))
      (call whole) (another part)) :
    Agree pairing row drawn (fun later => Level (same later))
      (posting.guarded stage giveUp call whole) (posting.guarded stage other another part) := by
  unfold guarded
  rw [along.interruption]
  cases posting.context.interruption part with
  | some interruption => exact left.agree drawn (.fails _)
  | none =>
      obtain ⟨later, grows, level, after⟩ := called
      generalize call whole = one, another part = next at level after
      obtain ⟨one, whole⟩ := one
      obtain ⟨next, part⟩ := next
      cases level with
      | waits progress => exact ⟨later, grows, .waits progress, after⟩
      | fails error => exact ⟨later, grows, .fails _, after⟩
      | succeeds related => exact ⟨later, grows, .succeeds related, after⟩

theorem finish_agree {one other : Result} (along : Alongside pairing row whole part)
    (same : SameResult (Receipt.Same pairing.entries) one other) (drawn : Nat) :
    Agree pairing row drawn TurnLevel (finish one whole) (finish other part) := by
  cases same with
  | fails error => exact (along.report _ _).agree drawn (.ended (.fails error))
  | succeeds related => exact (along.report _ _).agree drawn (.ended (.succeeds related))

theorem abort_agree (along : Alongside pairing row whole part) (paired : pairing.units unit twin)
    (cause : PostingError) (drawn : Nat) :
    Agree pairing row drawn TurnLevel (abort Memory.store unit cause whole)
      (abort Memory.store twin cause part) := by
  unfold abort
  split
  · exact finish_agree ((along.report _ _).drop paired) (.fails cause) drawn
  · exact along.agree drawn (.running (.undoing paired cause .fresh))

theorem judge_agree (along : Alongside pairing row whole part) (paired : pairing.units unit twin)
    (account : Account) (drawn : Nat) :
    Agree pairing row drawn TurnLevel (judge Memory.store posting unit account whole)
      (judge Memory.store posting twin account part) := by
  have reported := along.report (lockedEvent account) (lockedEvent account)
  unfold judge
  cases post account.balance posting.kind posting.amount with
  | ok balance => exact reported.agree drawn (.running (.writing paired balance .fresh))
  | error refusal => exact abort_agree reported paired _ drawn

theorem decideCommit_agree {receipt other : Receipt} (along : Alongside pairing row whole part)
    (paired : pairing.units unit twin) (same : receipt.Same pairing.entries other) (drawn : Nat) :
    Agree pairing row drawn TurnLevel (decideCommit Memory.store posting unit receipt whole)
      (decideCommit Memory.store posting twin other part) := by
  unfold decideCommit
  rw [along.interruption]
  cases posting.context.interruption part with
  | some interruption => exact abort_agree along paired _ drawn
  | none => exact along.agree drawn (.running (.committing paired same .fresh))

/-- A request of a posting, as long as its caller has not been interrupted. -/
theorem guardedAsk_agree (posting : Posting) (request : Request)
    (along : Alongside pairing row whole part) (paired : pairing.units unit twin)
    (concerns : request.Concerns row) (stage : Stage) (progress : Progress) (drawn : Nat) :
    Agree pairing row drawn (fun later => Level (request.SameReply later.entries))
      (guardedAsk Memory.store posting stage unit request progress whole)
      (guardedAsk Memory.store posting stage twin request progress part) :=
  guarded_agree posting along stage _ _ _ _ (along.withdraw request paired concerns progress)
    (Memory.tryAsk_agree along paired concerns progress drawn)

private theorem opening_agree (along : Alongside pairing posting.account whole part)
    (progress : Progress) :
    Agree pairing posting.account whole.store.lastUnit TurnLevel
      (step Memory.store posting (.opening progress) whole)
      (step Memory.store posting (.opening progress) part) := by
  obtain ⟨later, grows, level, left⟩ := guarded_agree posting along .idle id id _ _ along
    (Memory.tryOpenBy_agree along posting.context.deadline progress)
  simp only [step]
  generalize
    posting.guarded .idle id (Memory.store.tryOpenBy posting.context.deadline progress) whole = one,
    posting.guarded .idle id (Memory.store.tryOpenBy posting.context.deadline progress) part = other
    at level left
  obtain ⟨one, whole⟩ := one
  obtain ⟨other, part⟩ := other
  cases level with
  | waits progress => exact ⟨later, grows, .running (.opening progress), left⟩
  | fails error => exact (finish_agree left (.fails error) _).after grows
  | succeeds paired => exact ⟨later, grows, .running (.locking paired .fresh), left⟩

private theorem locking_agree (along : Alongside pairing posting.account whole part)
    (paired : pairing.units unit twin) (progress : Progress) :
    Agree pairing posting.account whole.store.lastUnit TurnLevel
      (step Memory.store posting (.locking unit progress) whole)
      (step Memory.store posting (.locking twin progress) part) := by
  obtain ⟨later, grows, level, left⟩ :=
    guardedAsk_agree posting posting.lockRequest along paired rfl .idle progress
      whole.store.lastUnit
  have still := grows.units paired
  simp only [step]
  generalize
    guardedAsk Memory.store posting .idle _ posting.lockRequest progress whole = one,
    guardedAsk Memory.store posting .idle _ posting.lockRequest progress part = other
    at level left
  obtain ⟨one, whole⟩ := one
  obtain ⟨other, part⟩ := other
  cases level with
  | waits progress => exact ⟨later, grows, .running (.locking still progress), left⟩
  | fails error => exact (abort_agree left still error _).after grows
  | @succeeds found _ same =>
      cases same
      cases found with
      | none => exact (abort_agree left still _ _).after grows
      | some account => exact (judge_agree left still account _).after grows

private theorem writing_agree (along : Alongside pairing posting.account whole part)
    (paired : pairing.units unit twin) (balance : Money) (progress : Progress) :
    Agree pairing posting.account whole.store.lastUnit TurnLevel
      (step Memory.store posting (.writing unit balance progress) whole)
      (step Memory.store posting (.writing twin balance progress) part) := by
  obtain ⟨later, grows, level, left⟩ :=
    guardedAsk_agree posting (posting.balanceRequest balance) along paired rfl .validated progress
      whole.store.lastUnit
  have still := grows.units paired
  simp only [step]
  generalize
    guardedAsk Memory.store posting .validated _ (posting.balanceRequest balance) progress whole =
      one,
    guardedAsk Memory.store posting .validated _ (posting.balanceRequest balance) progress part =
      other
    at level left
  obtain ⟨one, whole⟩ := one
  obtain ⟨other, part⟩ := other
  cases level with
  | waits progress => exact ⟨later, grows, .running (.writing still balance progress), left⟩
  | fails error => exact (abort_agree left still error _).after grows
  | succeeds same => exact ⟨later, grows, .running (.appending still balance .fresh), left⟩

private theorem appending_agree (along : Alongside pairing posting.account whole part)
    (paired : pairing.units unit twin) (balance : Money) (progress : Progress) :
    Agree pairing posting.account whole.store.lastUnit TurnLevel
      (step Memory.store posting (.appending unit balance progress) whole)
      (step Memory.store posting (.appending twin balance progress) part) := by
  obtain ⟨later, grows, level, left⟩ :=
    guardedAsk_agree posting posting.entryRequest along paired rfl .mutated progress
      whole.store.lastUnit
  have still := grows.units paired
  simp only [step]
  generalize
    guardedAsk Memory.store posting .mutated _ posting.entryRequest progress whole = one,
    guardedAsk Memory.store posting .mutated _ posting.entryRequest progress part = other
    at level left
  obtain ⟨one, whole⟩ := one
  obtain ⟨other, part⟩ := other
  cases level with
  | waits progress => exact ⟨later, grows, .running (.appending still balance progress), left⟩
  | fails error => exact (abort_agree left still error _).after grows
  | @succeeds entry another same =>
      have receipts : Receipt.Same later.entries ⟨Entry.id entry, balance⟩
          ⟨Entry.id another, balance⟩ := ⟨same.ids, rfl⟩
      exact (decideCommit_agree left still receipts _).after grows

private theorem committing_agree {receipt other : Receipt}
    (along : Alongside pairing posting.account whole part) (paired : pairing.units unit twin)
    (same : receipt.Same pairing.entries other) (progress : Progress) :
    Agree pairing posting.account whole.store.lastUnit TurnLevel
      (step Memory.store posting (.committing unit receipt progress) whole)
      (step Memory.store posting (.committing twin other progress) part) := by
  obtain ⟨later, grows, level, left⟩ : Agree pairing posting.account whole.store.lastUnit
      (fun _ => Level Eq) (Memory.store.tryFinish _ .commit progress whole)
      (Memory.store.tryFinish _ .commit progress part) :=
      Memory.tryFinish_agree along paired .commit progress whole.store.lastUnit
  simp only [step]
  generalize
    Memory.store.tryFinish _ .commit progress whole = one,
    Memory.store.tryFinish _ .commit progress part = other
    at level left
  obtain ⟨one, whole⟩ := one
  obtain ⟨other, part⟩ := other
  have kept := same.grows grows
  cases level with
  | waits progress =>
      exact ⟨later, grows, .running (.committing (grows.units paired) kept progress), left⟩
  | fails error => exact (finish_agree left (.fails _) _).after grows
  | succeeds _ => exact (finish_agree left (.succeeds kept) _).after grows

private theorem undoing_agree (along : Alongside pairing posting.account whole part)
    (paired : pairing.units unit twin) (cause : PostingError) (progress : Progress) :
    Agree pairing posting.account whole.store.lastUnit TurnLevel
      (step Memory.store posting (.undoing unit cause progress) whole)
      (step Memory.store posting (.undoing twin cause progress) part) := by
  obtain ⟨later, grows, level, left⟩ : Agree pairing posting.account whole.store.lastUnit
      (fun _ => Level Eq) (Memory.store.tryFinish _ .rollback progress whole)
      (Memory.store.tryFinish _ .rollback progress part) :=
      Memory.tryFinish_agree along paired .rollback progress whole.store.lastUnit
  simp only [step]
  generalize
    Memory.store.tryFinish _ .rollback progress whole = one,
    Memory.store.tryFinish _ .rollback progress part = other
    at level left
  obtain ⟨one, whole⟩ := one
  obtain ⟨other, part⟩ := other
  cases level with
  | waits progress =>
      exact ⟨later, grows, .running (.undoing (grows.units paired) cause progress), left⟩
  | fails error => exact (finish_agree (left.report _ _) (.fails cause) _).after grows
  | succeeds _ => exact (finish_agree left (.fails cause) _).after grows

theorem step_agree {one other : Phase UnitId Progress}
    (along : Alongside pairing posting.account whole part) (level : one.Level pairing other) :
    Agree pairing posting.account whole.store.lastUnit TurnLevel
      (step Memory.store posting one whole) (step Memory.store posting other part) := by
  cases level with
  | opening progress => exact opening_agree along progress
  | locking paired progress => exact locking_agree along paired progress
  | writing paired balance progress => exact writing_agree along paired balance progress
  | appending paired balance progress => exact appending_agree along paired balance progress
  | committing paired same progress => exact committing_agree along paired same progress
  | undoing paired cause progress => exact undoing_agree along paired cause progress

theorem giveUp_alongside {one other : Phase UnitId Progress}
    (along : Alongside pairing posting.account whole part) (level : one.Level pairing other) :
    Alongside pairing posting.account (giveUp Memory.store posting one whole)
      (giveUp Memory.store posting other part) := by
  cases level with
  | opening progress => exact along
  | locking paired progress =>
      exact (along.withdraw posting.lockRequest paired rfl progress).drop paired
  | writing paired balance progress =>
      exact (along.withdraw (posting.balanceRequest balance) paired rfl progress).drop paired
  | appending paired balance progress =>
      exact (along.withdraw posting.entryRequest paired rfl progress).drop paired
  | committing paired same progress => exact along.drop paired
  | undoing paired cause progress => exact along.drop paired

/-!
### Postings to other accounts
-/

/-- Whether the unit of a posting, if it has one, corresponds to none. -/
def Phase.Lone (pairing : Pairing) (phase : Phase UnitId Progress) : Prop :=
  ∀ unit, phase.unit? = some unit → ∀ twin, ¬ pairing.units unit twin

variable {phase : Phase UnitId Progress}

theorem finish_elsewhere (along : Alongside pairing row whole part) (result : Result) :
    Alongside pairing row
      (finish result whole : Turn (Phase UnitId Progress) Result × World Memory).2 part := by
  cases result <;> exact along.reportWhole _

theorem abort_elsewhere (along : Alongside pairing row whole part)
    (alone : ∀ twin, ¬ pairing.units unit twin) (cause : PostingError) :
    Alongside pairing row (abort Memory.store unit cause whole).2 part := by
  unfold abort
  split
  · exact finish_elsewhere ((along.reportWhole _).dropElsewhere alone) _
  · exact along

theorem judge_elsewhere (along : Alongside pairing row whole part)
    (alone : ∀ twin, ¬ pairing.units unit twin) (account : Account) :
    Alongside pairing row (judge Memory.store posting unit account whole).2 part := by
  have reported := along.reportWhole (lockedEvent account)
  unfold judge
  cases post account.balance posting.kind posting.amount with
  | ok balance => exact reported
  | error refusal => exact abort_elsewhere reported alone _

theorem decideCommit_elsewhere (along : Alongside pairing row whole part)
    (alone : ∀ twin, ¬ pairing.units unit twin) (receipt : Receipt) :
    Alongside pairing row (decideCommit Memory.store posting unit receipt whole).2 part := by
  unfold decideCommit
  split
  · exact abort_elsewhere along alone _
  · exact along

theorem guarded_elsewhere {α : Type} (posting : Posting) (stage : Stage)
    (giveUp : World Memory → World Memory)
    (call : World Memory → Poll Progress (Except StoreError α) × World Memory)
    (left : Alongside pairing row (giveUp whole) part)
    (called : Alongside pairing row (call whole).2 part) :
    Alongside pairing row (posting.guarded stage giveUp call whole).2 part := by
  unfold guarded
  split
  · exact left
  · generalize call whole = tried at called
    obtain ⟨progress | result, after⟩ := tried
    · exact called
    · exact called

theorem guardedAsk_elsewhere (posting : Posting) (request : Request)
    (along : Alongside pairing row whole part) (alone : ∀ twin, ¬ pairing.units unit twin)
    (avoids : request.Avoids row) (stage : Stage) (progress : Progress) :
    Alongside pairing row (guardedAsk Memory.store posting stage unit request progress whole).2
      part :=
  guarded_elsewhere posting stage _ _ (along.withdrawElsewhere unit request avoids progress)
    (Memory.tryAsk_elsewhere along alone avoids progress)

theorem step_elsewhere (along : Alongside pairing row whole part)
    (different : posting.account ≠ row) (lone : phase.Lone pairing) :
    Alongside pairing row (step Memory.store posting phase whole).2 part := by
  cases phase with
  | opening progress =>
      have left := guarded_elsewhere posting .idle id _ along
        (Memory.tryOpenBy_elsewhere along posting.context.deadline progress)
      simp only [step]
      generalize posting.guarded .idle id (Memory.store.tryOpenBy posting.context.deadline progress)
        whole = tried at left
      obtain ⟨progress | (error | unit), after⟩ := tried
      · exact left
      · exact finish_elsewhere left _
      · exact left
  | locking unit progress =>
      have left :=
        guardedAsk_elsewhere posting posting.lockRequest along (lone unit rfl)
          different .idle progress
      simp only [step]
      generalize guardedAsk Memory.store posting .idle unit posting.lockRequest progress whole =
        tried at left
      obtain ⟨progress | (error | _ | account), after⟩ := tried
      · exact left
      · exact abort_elsewhere left (lone unit rfl) _
      · exact abort_elsewhere left (lone unit rfl) _
      · exact judge_elsewhere left (lone unit rfl) _
  | writing unit balance progress =>
      have left :=
        guardedAsk_elsewhere posting (posting.balanceRequest balance) along (lone unit rfl)
          different .validated progress
      simp only [step]
      generalize guardedAsk Memory.store posting .validated unit (posting.balanceRequest balance)
        progress whole = tried at left
      obtain ⟨progress | (error | _), after⟩ := tried
      · exact left
      · exact abort_elsewhere left (lone unit rfl) _
      · exact left
  | appending unit balance progress =>
      have left := guardedAsk_elsewhere posting posting.entryRequest along (lone unit rfl)
        (fun same => different (Option.some.inj same)) .mutated progress
      simp only [step]
      generalize guardedAsk Memory.store posting .mutated unit posting.entryRequest progress whole =
        tried at left
      obtain ⟨progress | (error | entry), after⟩ := tried
      · exact left
      · exact abort_elsewhere left (lone unit rfl) _
      · exact decideCommit_elsewhere left (lone unit rfl) _
  | committing unit receipt progress =>
      have left : Alongside pairing row
          (Memory.store.tryFinish unit .commit progress whole).2 part :=
        Memory.tryFinish_elsewhere along (lone unit rfl) .commit progress
      simp only [step]
      generalize Memory.store.tryFinish unit .commit progress whole = tried at left
      obtain ⟨progress | (error | _), after⟩ := tried
      · exact left
      · exact finish_elsewhere left _
      · exact finish_elsewhere left _
  | undoing unit cause progress =>
      have left : Alongside pairing row
          (Memory.store.tryFinish unit .rollback progress whole).2 part :=
        Memory.tryFinish_elsewhere along (lone unit rfl) .rollback progress
      simp only [step]
      generalize Memory.store.tryFinish unit .rollback progress whole = tried at left
      obtain ⟨progress | (error | _), after⟩ := tried
      · exact left
      · exact finish_elsewhere (left.reportWhole _) _
      · exact finish_elsewhere left _

theorem giveUp_elsewhere (along : Alongside pairing row whole part)
    (different : posting.account ≠ row) (lone : phase.Lone pairing) :
    Alongside pairing row (giveUp Memory.store posting phase whole) part := by
  cases phase with
  | opening progress => exact along
  | locking unit progress =>
      exact (along.withdrawElsewhere unit posting.lockRequest different progress).dropElsewhere
        (lone unit rfl)
  | writing unit balance progress =>
      exact (along.withdrawElsewhere unit (posting.balanceRequest balance) different
        progress).dropElsewhere (lone unit rfl)
  | appending unit balance progress =>
      refine (along.withdrawElsewhere unit posting.entryRequest ?_ progress).dropElsewhere
        (lone unit rfl)
      exact fun same => different (Option.some.inj same)
  | committing unit receipt progress => exact along.dropElsewhere (lone unit rfl)
  | undoing unit cause progress => exact along.dropElsewhere (lone unit rfl)

end Posting

end Passbook
