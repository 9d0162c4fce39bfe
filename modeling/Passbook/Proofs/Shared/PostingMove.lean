import Passbook.Call.Posting
import Passbook.Proofs.Memory.Outcome

/-!
What one step of a posting can do over a ledger in memory: one case for each way on from each phase,
with the outcome of the store call that the step tried. Later facts about postings argue from these
cases and do not look into the step.
-/

set_option autoImplicit false

namespace Passbook.Posting

open Memory (Progress)

def Phase.unit? {υ π : Type} : Phase υ π → Option υ
  | .opening _ => none
  | .locking unit _ => some unit
  | .writing unit _ _ => some unit
  | .appending unit _ _ => some unit
  | .committing unit _ _ => some unit
  | .undoing unit _ _ => some unit

/-- Whether a posting has begun to end its unit of work. -/
def Phase.isEnding {υ π : Type} : Phase υ π → Bool
  | .committing _ _ _ => true
  | .undoing _ _ _ => true
  | _ => false

/-- What one step of a posting can do. -/
inductive Move (posting : Posting) (memory : Memory) :
    Phase UnitId Progress → Turn (Phase UnitId Progress) Result → Memory → Prop
  | keepsOpening {progress next : Progress} {after : Memory}
      (opening : Memory.Opening memory (.waiting next) after) :
      Move posting memory (.opening progress) (.rests (.opening next)) after
  | opens {progress : Progress} {unit : UnitId} {after : Memory}
      (opening : Memory.Opening memory (.ready (.ok unit)) after) :
      Move posting memory (.opening progress) (.proceeds (.locking unit .fresh)) after
  | failsToOpen {progress : Progress} {error : StoreError} {after : Memory}
      (opening : Memory.Opening memory (.ready (.error error)) after) :
      Move posting memory (.opening progress) (.ends (.error (.ofStore .idle error))) after
  | interruptedOpening {progress : Progress} (interruption : Interruption) :
      Move posting memory (.opening progress)
        (.ends (.error (.ofInterruption .idle interruption))) memory
  | keepsLocking {unit : UnitId} {progress next : Progress} {after : Memory}
      (locking : Memory.Locking unit posting.account memory (.waiting next) after) :
      Move posting memory (.locking unit progress) (.rests (.locking unit next)) after
  | accepts {unit : UnitId} {progress : Progress} {account : Account} {balance : Money}
      {after : Memory}
      (locking : Memory.Locking unit posting.account memory (.ready (.ok (some account))) after)
      (posted : post account.balance posting.kind posting.amount = .ok balance) :
      Move posting memory (.locking unit progress) (.proceeds (.writing unit balance .fresh)) after
  | refuses {unit : UnitId} {progress : Progress} {account : Account} {refusal : LedgerError}
      {after : Memory}
      (locking : Memory.Locking unit posting.account memory (.ready (.ok (some account))) after)
      (posted : post account.balance posting.kind posting.amount = .error refusal) :
      Move posting memory (.locking unit progress)
        (.proceeds (.undoing unit
          (.ofRefusal posting.account account.balance posting.amount refusal) .fresh)) after
  | misses {unit : UnitId} {progress : Progress} {after : Memory}
      (locking : Memory.Locking unit posting.account memory (.ready (.ok none)) after) :
      Move posting memory (.locking unit progress)
        (.proceeds (.undoing unit (.notFound posting.account) .fresh)) after
  | timesOut {unit : UnitId} {progress : Progress} {error : StoreError} {after : Memory}
      (locking : Memory.Locking unit posting.account memory (.ready (.error error)) after) :
      Move posting memory (.locking unit progress) (.ends (.error (.deadlineExceeded .idle)))
        (after.discard unit)
  | keepsWriting {unit : UnitId} {balance : Money} {progress next : Progress} {after : Memory}
      (setting : Memory.Setting unit posting.account balance memory (.waiting next) after) :
      Move posting memory (.writing unit balance progress)
        (.rests (.writing unit balance next)) after
  | writes {unit : UnitId} {balance : Money} {progress : Progress} {after : Memory}
      (setting : Memory.Setting unit posting.account balance memory (.ready (.ok ())) after) :
      Move posting memory (.writing unit balance progress)
        (.proceeds (.appending unit balance .fresh)) after
  | failsToWrite {unit : UnitId} {balance : Money} {progress : Progress} {error : StoreError}
      {after : Memory}
      (setting : Memory.Setting unit posting.account balance memory (.ready (.error error)) after) :
      Move posting memory (.writing unit balance progress)
        (.proceeds (.undoing unit (.store .validated error) .fresh)) after
  | keepsAppending {unit : UnitId} {balance : Money} {progress next : Progress} {after : Memory}
      (appending : Memory.Appending unit ⟨some posting.account, posting.amount, posting.kind⟩ memory
        (.waiting next) after) :
      Move posting memory (.appending unit balance progress)
        (.rests (.appending unit balance next)) after
  | appends {unit : UnitId} {balance : Money} {progress : Progress} {entry : Entry} {after : Memory}
      (appending : Memory.Appending unit ⟨some posting.account, posting.amount, posting.kind⟩ memory
        (.ready (.ok entry)) after) :
      Move posting memory (.appending unit balance progress)
        (.proceeds (.committing unit ⟨entry.id, balance⟩ .fresh)) after
  | appendsTooLate {unit : UnitId} {balance : Money} {progress : Progress} {entry : Entry}
      {after : Memory} (interruption : Interruption)
      (appending : Memory.Appending unit ⟨some posting.account, posting.amount, posting.kind⟩ memory
        (.ready (.ok entry)) after) :
      Move posting memory (.appending unit balance progress)
        (.ends (.error (.ofInterruption .recorded interruption))) (after.discard unit)
  | failsToAppend {unit : UnitId} {balance : Money} {progress : Progress} {error : StoreError}
      {after : Memory}
      (appending : Memory.Appending unit ⟨some posting.account, posting.amount, posting.kind⟩ memory
        (.ready (.error error)) after) :
      Move posting memory (.appending unit balance progress)
        (.proceeds (.undoing unit (.store .mutated error) .fresh)) after
  | interrupted {unit : UnitId} {phase : Phase UnitId Progress} {after : Memory} (stage : Stage)
      (interruption : Interruption) (owned : phase.unit? = some unit)
      (early : phase.isEnding = false) (withdrawn : Memory.Acts unit memory after) :
      Move posting memory phase (.ends (.error (.ofInterruption stage interruption)))
        (after.discard unit)
  | keepsCommitting {unit : UnitId} {receipt : Receipt} {progress next : Progress} {after : Memory}
      (committing : Memory.Committing unit memory (.waiting next) after) :
      Move posting memory (.committing unit receipt progress)
        (.rests (.committing unit receipt next)) after
  | commits {unit : UnitId} {receipt : Receipt} {progress : Progress} {after : Memory}
      (committing : Memory.Committing unit memory (.ready (.ok ())) after) :
      Move posting memory (.committing unit receipt progress) (.ends (.ok receipt)) after
  | failsToCommit {unit : UnitId} {receipt : Receipt} {progress : Progress} {error : StoreError}
      {after : Memory} (committing : Memory.Committing unit memory (.ready (.error error)) after) :
      Move posting memory (.committing unit receipt progress)
        (.ends (.error (.ofStore .recorded error))) after
  | keepsUndoing {unit : UnitId} {cause : PostingError} {progress next : Progress} {after : Memory}
      (rollingBack : Memory.RollingBack unit memory (.waiting next) after) :
      Move posting memory (.undoing unit cause progress) (.rests (.undoing unit cause next)) after
  | undoes {unit : UnitId} {cause : PostingError} {progress : Progress}
      {result : Except StoreError Unit} {after : Memory}
      (rollingBack : Memory.RollingBack unit memory (.ready result) after) :
      Move posting memory (.undoing unit cause progress) (.ends (.error cause)) after

private theorem ofRefusal_isInterruption (account : AccountId) (balance : Money)
    (requested : Amount) (refusal : LedgerError) :
    (PostingError.ofRefusal account balance requested refusal).isInterruption = false := by
  cases refusal <;> rfl

theorem ofInterruption_isInterruption (stage : Stage) (interruption : Interruption) :
    (PostingError.ofInterruption stage interruption).isInterruption = true := by
  cases interruption <;> rfl

private theorem ofStore_of_noTimeout (stage : Stage) {error : StoreError}
    (noTimeout : error.fault ≠ .lockTimeout) :
    PostingError.ofStore stage error = .store stage error := by
  simp only [PostingError.ofStore, noTimeout, if_false]

variable {posting : Posting} {unit : UnitId}

theorem abort_interruption (unit : UnitId) (cause : PostingError)
    (late : cause.isInterruption = true) (world : World Memory) :
    (abort Memory.store unit cause world).1 = .ends (.error cause) ∧
      (abort Memory.store unit cause world).2.store = world.store.discard unit := by
  simp only [abort, late, if_true]
  exact ⟨rfl, rfl⟩

private theorem abort_failure {cause : PostingError} (early : cause.isInterruption = false)
    (world : World Memory) :
    abort Memory.store unit cause world = (.proceeds (.undoing unit cause .fresh), world) := by
  simp only [abort, early, Bool.false_eq_true, if_false]
  rfl

private theorem interrupted_move {phase : Phase UnitId Progress} (stage : Stage)
    (interruption : Interruption) (owned : phase.unit? = some unit) (early : phase.isEnding = false)
    (request : Request) (progress : Progress) (world : World Memory) :
    Move posting world.store phase
      (abort Memory.store unit (.ofInterruption stage interruption)
        (Memory.withdraw unit request progress world)).1
      (abort Memory.store unit (.ofInterruption stage interruption)
        (Memory.withdraw unit request progress world)).2.store := by
  obtain ⟨ends, dropped⟩ :=
    abort_interruption unit _ (ofInterruption_isInterruption stage interruption)
      (Memory.withdraw unit request progress world)
  rw [ends, dropped]
  exact .interrupted stage interruption owned early
    (Memory.withdraw_acts unit request progress world)

private theorem judge_move {progress : Progress} {account : Account} {before : Memory}
    (world : World Memory)
    (locking : Memory.Locking unit posting.account before
      (.ready (.ok (some account))) world.store) :
    Move posting before (.locking unit progress) (judge Memory.store posting unit account world).1
      (judge Memory.store posting unit account world).2.store := by
  unfold judge
  cases posted : post account.balance posting.kind posting.amount with
  | ok balance => exact .accepts locking posted
  | error refusal =>
      simp only [abort_failure (ofRefusal_isInterruption _ _ _ refusal)]
      exact .refuses locking posted

private theorem decideCommit_move {progress : Progress} {balance : Money} {entry : Entry}
    {before : Memory} (world : World Memory)
    (appending : Memory.Appending unit ⟨some posting.account, posting.amount, posting.kind⟩ before
      (.ready (.ok entry)) world.store) :
    Move posting before (.appending unit balance progress)
      (decideCommit Memory.store posting unit ⟨entry.id, balance⟩ world).1
      (decideCommit Memory.store posting unit ⟨entry.id, balance⟩ world).2.store := by
  unfold decideCommit
  cases posting.context.interruption world with
  | none => exact .appends appending
  | some interruption =>
      obtain ⟨ends, dropped⟩ := abort_interruption unit _
        (ofInterruption_isInterruption .recorded interruption) world
      simp only [ends, dropped]
      exact .appendsTooLate interruption appending

/-- A row that is not handed over in time ends the posting by its deadline. -/
private theorem lockTimeout_move {progress : Progress} {error : StoreError} {before : Memory}
    (world : World Memory)
    (locking : Memory.Locking unit posting.account before (.ready (.error error)) world.store) :
    Move posting before (.locking unit progress)
      (abort Memory.store unit (.ofStore .idle error) world).1
      (abort Memory.store unit (.ofStore .idle error) world).2.store := by
  have isTimeout : error.fault = .lockTimeout := by
    generalize world.store = after at locking
    cases locking
    rfl
  have late : PostingError.ofStore .idle error = .deadlineExceeded .idle := by
    simp only [PostingError.ofStore, isTimeout, if_true]
  obtain ⟨ends, dropped⟩ := abort_interruption unit (.deadlineExceeded .idle) rfl world
  rw [late, ends, dropped]
  exact .timesOut locking

/-- A store call that fails without a timeout makes the posting undo what it has done. -/
private theorem failure_move {phase : Phase UnitId Progress} {stage : Stage} {error : StoreError}
    {before : Memory} (noTimeout : error.fault ≠ .lockTimeout) (world : World Memory)
    (fails : Move posting before phase (.proceeds (.undoing unit (.store stage error) .fresh))
      world.store) :
    Move posting before phase (abort Memory.store unit (.ofStore stage error) world).1
      (abort Memory.store unit (.ofStore stage error) world).2.store := by
  rw [ofStore_of_noTimeout stage noTimeout, abort_failure rfl world]
  exact fails

variable (posting unit)

private theorem opening_move (progress : Progress) (world : World Memory) :
    Move posting world.store (.opening progress)
      (posting.step Memory.store (.opening progress) world).1
      (posting.step Memory.store (.opening progress) world).2.store := by
  simp only [step, guarded]
  cases posting.context.interruption world with
  | some interruption => exact .interruptedOpening interruption
  | none =>
      have opening := Memory.tryOpenBy_opening posting.context.deadline progress world
      generalize Memory.store.tryOpenBy posting.context.deadline progress world = tried at opening
      rcases tried with ⟨next | error | unit, left⟩
      · exact .keepsOpening opening
      · exact .failsToOpen opening
      · exact .opens opening

private theorem locking_move (progress : Progress) (world : World Memory) :
    Move posting world.store (.locking unit progress)
      (posting.step Memory.store (.locking unit progress) world).1
      (posting.step Memory.store (.locking unit progress) world).2.store := by
  simp only [step, guardedAsk, guarded]
  cases posting.context.interruption world with
  | some interruption =>
      exact interrupted_move .idle interruption rfl rfl posting.lockRequest progress world
  | none =>
      have locking := Memory.tryLock_locking unit posting.account posting.context.deadline world
      generalize tried : Memory.tryLock unit posting.account posting.context.deadline world =
        attempt at locking
      have same : Memory.store.tryAsk unit posting.lockRequest progress world = attempt := tried
      rw [same]
      rcases attempt with ⟨next | error | _ | account, left⟩
      · exact .keepsLocking locking
      · exact lockTimeout_move left locking
      · exact .misses locking
      · exact judge_move left locking

private theorem writing_move (balance : Money) (progress : Progress) (world : World Memory) :
    Move posting world.store (.writing unit balance progress)
      (posting.step Memory.store (.writing unit balance progress) world).1
      (posting.step Memory.store (.writing unit balance progress) world).2.store := by
  simp only [step, guardedAsk, guarded]
  cases posting.context.interruption world with
  | some interruption =>
      exact interrupted_move .validated interruption rfl rfl
        (posting.balanceRequest balance) progress world
  | none =>
      have setting := Memory.trySetBalance_setting unit posting.account balance progress world
      generalize tried : Memory.trySetBalance unit posting.account balance progress world = attempt
        at setting
      have same : Memory.store.tryAsk unit (posting.balanceRequest balance) progress world =
          attempt := tried
      rw [same]
      rcases attempt with ⟨next | error | written, left⟩
      · exact .keepsWriting setting
      · exact failure_move setting.noTimeout left (.failsToWrite setting)
      · exact .writes setting

private theorem appending_move (balance : Money) (progress : Progress) (world : World Memory) :
    Move posting world.store (.appending unit balance progress)
      (posting.step Memory.store (.appending unit balance progress) world).1
      (posting.step Memory.store (.appending unit balance progress) world).2.store := by
  simp only [step, guardedAsk, guarded]
  cases posting.context.interruption world with
  | some interruption =>
      exact interrupted_move .mutated interruption rfl rfl posting.entryRequest progress world
  | none =>
      have appending := Memory.tryAppend_appending unit
        ⟨some posting.account, posting.amount, posting.kind⟩ progress world
      generalize tried : Memory.tryAppend unit ⟨some posting.account, posting.amount, posting.kind⟩
        progress world = attempt at appending
      have same : Memory.store.tryAsk unit posting.entryRequest progress world = attempt := tried
      rw [same]
      rcases attempt with ⟨next | error | entry, left⟩
      · exact .keepsAppending appending
      · exact failure_move appending.noTimeout left (.failsToAppend appending)
      · exact decideCommit_move left appending

private theorem committing_move (receipt : Receipt) (progress : Progress) (world : World Memory) :
    Move posting world.store (.committing unit receipt progress)
      (posting.step Memory.store (.committing unit receipt progress) world).1
      (posting.step Memory.store (.committing unit receipt progress) world).2.store := by
  simp only [step]
  have committing := Memory.tryCommit_committing unit progress world
  generalize tried : Memory.tryCommit unit progress world = attempt at committing
  have same : Memory.store.tryFinish unit .commit progress world = attempt := tried
  rw [same]
  rcases attempt with ⟨next | error | done, left⟩
  · exact .keepsCommitting committing
  · exact .failsToCommit committing
  · exact .commits committing

private theorem undoing_move (cause : PostingError) (progress : Progress) (world : World Memory) :
    Move posting world.store (.undoing unit cause progress)
      (posting.step Memory.store (.undoing unit cause progress) world).1
      (posting.step Memory.store (.undoing unit cause progress) world).2.store := by
  simp only [step]
  have rollingBack := Memory.tryRollback_rollingBack unit progress world
  generalize tried : Memory.tryRollback unit progress world = attempt at rollingBack
  have same : Memory.store.tryFinish unit .rollback progress world = attempt := tried
  rw [same]
  rcases attempt with ⟨next | error | done, left⟩
  · exact .keepsUndoing rollingBack
  · exact .undoes rollingBack
  · exact .undoes rollingBack

/-- Whatever the phase, a step of a posting is one of its moves. -/
theorem step_move (phase : Phase UnitId Progress) (world : World Memory) :
    Move posting world.store phase (posting.step Memory.store phase world).1
      (posting.step Memory.store phase world).2.store := by
  cases phase with
  | opening progress => exact opening_move posting progress world
  | locking unit progress => exact locking_move posting unit progress world
  | writing unit balance progress => exact writing_move posting unit balance progress world
  | appending unit balance progress => exact appending_move posting unit balance progress world
  | committing unit receipt progress => exact committing_move posting unit receipt progress world
  | undoing unit cause progress => exact undoing_move posting unit cause progress world

end Passbook.Posting
