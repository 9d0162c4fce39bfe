import Passbook.Call.Query
import Passbook.Proofs.Calls.Unmasked

/-!
Trouble with rollbacks. A posting waits for the rollback of its unit unless its caller has gone, a
query always does; neither lets the rollback change what it answers. So an order that makes
rollbacks fail or stall is not seen in any result or in the ledger.
-/

set_option autoImplicit false

namespace Passbook.Calls

open Memory (Progress)
open Shared (Course)

variable {fails : Bool} {delay : Option Nat} {unit : UnitId} {world : Scene}

theorem landmarks_drop (unit : UnitId) (world : Scene) :
    landmarks (tracedStore.drop unit world).store.trace = landmarks world.store.trace := by
  have noted : (tracedStore.drop unit world).store.trace = world.store.trace ++ [.dropped unit] :=
    rfl
  rw [noted, landmarks_append]
  exact List.append_nil _

/-!
## Postings
-/

/-- A posting waits for the rollback unless its caller has run out of time or has withdrawn. -/
def AwaitsRollback (error : PostingError) : Prop :=
  ∀ stage, error ≠ .deadlineExceeded stage ∧ error ≠ .cancelled stage

theorem awaitsRollback_iff (error : PostingError) :
    AwaitsRollback error ↔ error.isInterruption = false := by
  cases error <;> simp [AwaitsRollback, PostingError.isInterruption, PostingError.kind]

def postingRole : Posting.Phase UnitId (Option Progress) → Role PostingError
  | .opening _ => .opening
  | .locking unit _ => .asking unit
  | .writing unit _ _ => .asking unit
  | .appending unit _ _ => .asking unit
  | .committing unit _ progress => .committing unit progress.isSome
  | .undoing unit cause progress => .undoing unit cause progress

section Armed

variable {α : Type} {posting : Posting}

private theorem guarded_armed {giveUp : Scene → Scene}
    {call : Scene → Poll (Option Progress) (Except StoreError α) × Scene} (stage : Stage)
    (given : giveUp (arm fails delay world) = arm fails delay (giveUp world))
    (called : call (arm fails delay world) = armed fails delay (call world)) :
    posting.guarded stage giveUp call (arm fails delay world) =
      armed fails delay (posting.guarded stage giveUp call world) := by
  have looked : posting.context.interruption (arm fails delay world) =
      posting.context.interruption world := rfl
  unfold Posting.guarded
  rw [looked]
  cases posting.context.interruption world with
  | some interruption => simp only [given, armed]
  | none =>
      simp only [called]
      rcases call world with ⟨later | result, left⟩ <;> rfl

private theorem guardedAsk_armed (stage : Stage) (request : Request) (progress : Option Progress) :
    posting.guardedAsk tracedStore stage unit request progress (arm fails delay world) =
      armed fails delay (posting.guardedAsk tracedStore stage unit request progress world) :=
  guarded_armed stage (withdraw_armed unit request progress world)
    (tryAsk_armed unit request progress world)

private theorem finish_armed (result : Posting.Result) (world : Scene) :
    Posting.finish (υ := UnitId) (π := Option Progress) result (arm fails delay world) =
      armed fails delay (Posting.finish result world) := by
  cases result <;> rfl

private theorem abort_armed (cause : PostingError) (world : Scene) :
    Posting.abort tracedStore unit cause (arm fails delay world) =
      armed fails delay (Posting.abort tracedStore unit cause world) := by
  unfold Posting.abort
  cases cause.isInterruption <;> rfl

private theorem judge_armed (account : Account) (world : Scene) :
    posting.judge tracedStore unit account (arm fails delay world) =
      armed fails delay (posting.judge tracedStore unit account world) := by
  unfold Posting.judge
  cases post account.balance posting.kind posting.amount with
  | ok balance => rfl
  | error refusal => exact abort_armed _ (world.report (Posting.lockedEvent account))

private theorem decideCommit_armed (receipt : Receipt) (world : Scene) :
    posting.decideCommit tracedStore unit receipt (arm fails delay world) =
      armed fails delay (posting.decideCommit tracedStore unit receipt world) := by
  have looked : posting.context.interruption (arm fails delay world) =
      posting.context.interruption world := rfl
  unfold Posting.decideCommit
  rw [looked]
  cases posting.context.interruption world with
  | some interruption => exact abort_armed _ world
  | none => rfl

/-- A step of a posting that is no rollback does the same whatever rollbacks have been ordered to
do. -/
private theorem posting_step_armed (posting : Posting)
    (phase : Posting.Phase UnitId (Option Progress))
    (goesOn : (postingRole phase).isUndoing = false) (fails : Bool) (delay : Option Nat)
    (world : Scene) :
    posting.step tracedStore phase (arm fails delay world) =
      armed fails delay (posting.step tracedStore phase world) := by
  cases phase with
  | opening progress =>
      have opened :
        posting.guarded .idle id (tracedStore.tryOpenBy posting.context.deadline progress)
          (arm fails delay world) =
          armed fails delay
            (posting.guarded .idle id (tracedStore.tryOpenBy posting.context.deadline progress)
              world) :=
        guarded_armed .idle rfl (tryOpenBy_armed posting.context.deadline progress world)
      simp only [Posting.step, opened]
      rcases posting.guarded .idle id (tracedStore.tryOpenBy posting.context.deadline progress)
        world with ⟨later | error | unit, left⟩
      · rfl
      · exact finish_armed _ left
      · rfl
  | locking unit progress =>
      simp only [Posting.step, guardedAsk_armed]
      rcases posting.guardedAsk tracedStore .idle unit posting.lockRequest progress world
        with ⟨later | error | _ | account, left⟩
      · rfl
      · exact abort_armed error left
      · exact abort_armed _ left
      · exact judge_armed account left
  | writing unit balance progress =>
      simp only [Posting.step, guardedAsk_armed]
      rcases posting.guardedAsk tracedStore .validated unit (posting.balanceRequest balance)
        progress world with ⟨later | error | ⟨⟩, left⟩
      · rfl
      · exact abort_armed error left
      · rfl
  | appending unit balance progress =>
      simp only [Posting.step, guardedAsk_armed]
      rcases posting.guardedAsk tracedStore .mutated unit posting.entryRequest progress world
        with ⟨later | error | entry, left⟩
      · rfl
      · exact abort_armed error left
      · exact decideCommit_armed _ left
  | committing unit receipt progress =>
      simp only [Posting.step, tryCommit_armed]
      rcases tracedStore.tryFinish unit .commit progress world with ⟨later | error | ⟨⟩, left⟩
      · rfl
      · exact finish_armed _ left
      · exact finish_armed _ left
  | undoing unit cause progress => cases goesOn

end Armed

section Calm

variable {posting : Posting}

private theorem landmarks_guardedOpen (posting : Posting) (progress : Option Progress)
    (world : Scene) :
    landmarks (posting.guarded .idle id (tracedStore.tryOpenBy posting.context.deadline progress)
      world).2.store.trace =
      landmarks world.store.trace ++
        opening (posting.guarded .idle id (tracedStore.tryOpenBy posting.context.deadline progress)
          world).1 := by
  have told := landmarks_tryOpenBy posting.context.deadline progress world
  unfold Posting.guarded
  cases posting.context.interruption world with
  | some interruption => exact (List.append_nil _).symm
  | none =>
      simp only
      generalize tracedStore.tryOpenBy posting.context.deadline progress world = tried at told ⊢
      rcases tried with ⟨later | error | unit, left⟩ <;> exact told

private theorem landmarks_guardedAsk (posting : Posting) (stage : Stage) (unit : UnitId)
    (request : Request) (progress : Option Progress) (world : Scene) :
    landmarks (posting.guardedAsk tracedStore stage unit request progress world).2.store.trace =
      landmarks world.store.trace := by
  have told := landmarks_tryAsk unit request progress world
  unfold Posting.guardedAsk Posting.guarded
  cases posting.context.interruption world with
  | some interruption => rfl
  | none =>
      simp only
      generalize tracedStore.tryAsk unit request progress world = tried at told ⊢
      rcases tried with ⟨later | answer, left⟩ <;> exact told

private theorem finish_calm (result : Posting.Result) {left : Scene} {marks : List Landmark}
    (told : landmarks left.store.trace = marks)
    (calm : Calm AwaitsRollback (.ended result) marks left.store.inner) :
    IsCalm postingRole AwaitsRollback (turned (Posting.finish result left)) := by
  cases result with
  | ok receipt => exact .of told calm
  | error error => exact .of told calm

private theorem abort_calm (cause : PostingError) {left : Scene}
    (opened : landmarks left.store.trace = [.opens unit]) :
    IsCalm postingRole AwaitsRollback (turned (Posting.abort tracedStore unit cause left)) := by
  unfold Posting.abort
  cases interrupted : cause.isInterruption with
  | true =>
      have unawaited : ¬ AwaitsRollback cause := by
        rw [awaitsRollback_iff, interrupted]
        exact Bool.noConfusion
      refine finish_calm (.error cause) ?_
        (.dropped unawaited (Memory.gone_discard left.store.inner unit))
      rw [landmarks_drop]
      exact opened
  | false => exact .of opened (.undoing unit ((awaitsRollback_iff cause).mpr interrupted))

private theorem judge_calm (account : Account) {left : Scene}
    (opened : landmarks left.store.trace = [.opens unit]) :
    IsCalm postingRole AwaitsRollback (turned (posting.judge tracedStore unit account left)) := by
  unfold Posting.judge
  cases post account.balance posting.kind posting.amount with
  | ok balance => exact .of opened (.asking unit)
  | error refusal => exact abort_calm _ opened

private theorem decideCommit_calm (receipt : Receipt) {left : Scene}
    (opened : landmarks left.store.trace = [.opens unit]) :
    IsCalm postingRole AwaitsRollback
      (turned (posting.decideCommit tracedStore unit receipt left)) := by
  unfold Posting.decideCommit
  cases posting.context.interruption left with
  | some interruption => exact abort_calm _ opened
  | none => exact .of opened (.committing unit false)

/-- Up to a rollback, a posting keeps to its course. -/
private theorem posting_step_calm (posting : Posting)
    (phase : Posting.Phase UnitId (Option Progress))
    (goesOn : (postingRole phase).isUndoing = false) (world : Scene)
    (calm : IsCalm (α := Receipt) postingRole AwaitsRollback (.running phase, world)) :
    IsCalm postingRole AwaitsRollback (turned (posting.step tracedStore phase world)) := by
  cases phase with
  | opening progress =>
      have told := landmarks_guardedOpen posting progress world
      rw [calm.opening rfl] at told
      simp only [Posting.step]
      generalize posting.guarded .idle id (tracedStore.tryOpenBy posting.context.deadline progress)
        world = tried at told ⊢
      rcases tried with ⟨later | error | unit, left⟩
      · exact .of told .opening
      · exact finish_calm _ told (.unopened error)
      · exact .of told (.asking unit)
  | locking unit progress =>
      have told := landmarks_guardedAsk posting .idle unit posting.lockRequest progress world
      rw [calm.asking rfl] at told
      simp only [Posting.step]
      generalize posting.guardedAsk tracedStore .idle unit posting.lockRequest progress world =
        tried at told ⊢
      rcases tried with ⟨later | error | _ | account, left⟩
      · exact .of told (.asking unit)
      · exact abort_calm error told
      · exact abort_calm _ told
      · exact judge_calm account told
  | writing unit balance progress =>
      have told :=
        landmarks_guardedAsk posting .validated unit (posting.balanceRequest balance) progress world
      rw [calm.asking rfl] at told
      simp only [Posting.step]
      generalize posting.guardedAsk tracedStore .validated unit (posting.balanceRequest balance)
        progress world = tried at told ⊢
      rcases tried with ⟨later | error | ⟨⟩, left⟩
      · exact .of told (.asking unit)
      · exact abort_calm error told
      · exact .of told (.asking unit)
  | appending unit balance progress =>
      have told := landmarks_guardedAsk posting .mutated unit posting.entryRequest progress world
      rw [calm.asking rfl] at told
      simp only [Posting.step]
      generalize posting.guardedAsk tracedStore .mutated unit posting.entryRequest progress world =
        tried at told ⊢
      rcases tried with ⟨later | error | entry, left⟩
      · exact .of told (.asking unit)
      · exact abort_calm error told
      · exact decideCommit_calm _ told
  | committing unit receipt progress =>
      have issued := calm.committing rfl
      have told := landmarks_committing issued
      simp only [Posting.step]
      rcases tried : tracedStore.tryFinish unit .commit progress world
        with ⟨later | error | ⟨⟩, left⟩
      · exact .of (landmarks_waiting issued tried) (.committing unit later.isSome)
      · rw [tried] at told
        exact finish_calm _ told (.committed unit _ (gone_of_tryCommit tried))
      · rw [tried] at told
        exact finish_calm _ told (.committed unit _ (gone_of_tryCommit tried))
  | undoing unit cause progress => cases goesOn

end Calm

private theorem posting_unwinds (posting : Posting) :
    Unwinds (posting.step tracedStore) postingRole AwaitsRollback where
  armed := posting_step_armed posting
  calm := posting_step_calm posting
  rests := by
    intro phase unit cause progress undoes world next after tried
    cases phase with
    | undoing own reason asked =>
        cases undoes
        simp only [Posting.step, tried]
        exact ⟨_, rfl, rfl⟩
    | _ => cases undoes
  ends := by
    intro phase unit cause progress undoes world answer after tried
    cases phase with
    | undoing own reason asked =>
        cases undoes
        simp only [Posting.step, tried]
        cases answer with
        | ok finished => exact ⟨_, rfl⟩
        | error error => exact ⟨_, rfl⟩
    | _ => cases undoes

/-!
## Queries
-/

section Queries

variable {α : Type}

def queryRole : Query.Phase UnitId (Option Progress) α → Role StoreError
  | .opening _ => .opening
  | .asking unit _ _ _ => .asking unit
  | .committing unit _ progress => .committing unit progress.isSome
  | .undoing unit cause progress => .undoing unit cause progress

/-- A query waits for every rollback. -/
def AlwaysAwaits (_ : StoreError) : Prop := True

private theorem query_finish_armed (query : Query α) (result : Query.Result α) (world : Scene) :
    query.finish (υ := UnitId) (π := Option Progress) result (arm fails delay world) =
      armed fails delay (query.finish result world) := by
  cases result with
  | ok answer => rfl
  | error error =>
      unfold Query.finish
      cases query.isReported <;> rfl

/-- A step of a query that is no rollback does the same whatever rollbacks have been ordered to do.
-/
private theorem query_step_armed (query : Query α) (phase : Query.Phase UnitId (Option Progress) α)
    (goesOn : (queryRole phase).isUndoing = false) (fails : Bool) (delay : Option Nat)
    (world : Scene) :
    query.step tracedStore phase (arm fails delay world) =
      armed fails delay (query.step tracedStore phase world) := by
  cases phase with
  | opening progress =>
      simp only [Query.step, tryOpenBy_armed]
      rcases tracedStore.tryOpenBy query.deadline progress world with ⟨later | error | unit, left⟩
      · rfl
      · exact query_finish_armed query _ left
      · rfl
  | asking unit request next progress =>
      simp only [Query.step, tryAsk_armed]
      rcases tracedStore.tryAsk unit request progress world with ⟨later | error | reply, left⟩ <;>
        rfl
  | committing unit answer progress =>
      simp only [Query.step, tryCommit_armed]
      rcases tracedStore.tryFinish unit .commit progress world with ⟨later | error | ⟨⟩, left⟩
      · rfl
      · exact query_finish_armed query _ left
      · exact query_finish_armed query _ left
  | undoing unit cause progress => cases goesOn

private theorem query_finish_calm (query : Query α) (result : Query.Result α) {left : Scene}
    {marks : List Landmark} (told : landmarks left.store.trace = marks)
    (calm : Calm AlwaysAwaits (.ended result) marks left.store.inner) :
    IsCalm queryRole AlwaysAwaits (turned (query.finish result left)) := by
  cases result with
  | ok answer => exact .of told calm
  | error error =>
      unfold Query.finish
      cases query.isReported with
      | true => exact .of told calm
      | false => exact .of told calm

private theorem proceed_calm (script : Script α) {left : Scene}
    (opened : landmarks left.store.trace = [.opens unit]) :
    IsCalm (α := α) queryRole AlwaysAwaits
      (.running (Query.proceed tracedStore unit script), left) := by
  cases script with
  | done answer => exact .of opened (.committing unit false)
  | ask request next => exact .of opened (.asking unit)

private theorem query_step_calm (query : Query α) (phase : Query.Phase UnitId (Option Progress) α)
    (goesOn : (queryRole phase).isUndoing = false) (world : Scene)
    (calm : IsCalm (α := α) queryRole AlwaysAwaits (.running phase, world)) :
    IsCalm queryRole AlwaysAwaits (turned (query.step tracedStore phase world)) := by
  cases phase with
  | opening progress =>
      have told := landmarks_tryOpenBy query.deadline progress world
      rw [calm.opening rfl] at told
      simp only [Query.step]
      generalize tracedStore.tryOpenBy query.deadline progress world = tried at told ⊢
      rcases tried with ⟨later | error | unit, left⟩
      · exact .of told .opening
      · exact query_finish_calm query _ told (.unopened error)
      · exact proceed_calm query.script told
  | asking unit request next progress =>
      have told := landmarks_tryAsk unit request progress world
      rw [calm.asking rfl] at told
      simp only [Query.step]
      generalize tracedStore.tryAsk unit request progress world = tried at told ⊢
      rcases tried with ⟨later | error | reply, left⟩
      · exact .of told (.asking unit)
      · exact .of told (.undoing unit trivial)
      · exact proceed_calm (next reply) told
  | committing unit answer progress =>
      have issued := calm.committing rfl
      have told := landmarks_committing issued
      simp only [Query.step]
      rcases tried : tracedStore.tryFinish unit .commit progress world
        with ⟨later | error | ⟨⟩, left⟩
      · exact .of (landmarks_waiting issued tried) (.committing unit later.isSome)
      · rw [tried] at told
        exact query_finish_calm query _ told (.committed unit _ (gone_of_tryCommit tried))
      · rw [tried] at told
        exact query_finish_calm query _ told (.committed unit _ (gone_of_tryCommit tried))
  | undoing unit cause progress => cases goesOn

private theorem query_finish_ends (query : Query α) (cause : StoreError) (world : Scene) :
    ∃ events, query.finish (υ := UnitId) (π := Option Progress) (.error cause) world =
      (.ends (.error cause), { world with events }) := by
  unfold Query.finish
  cases query.isReported with
  | true => exact ⟨_, rfl⟩
  | false => exact ⟨_, rfl⟩

private theorem query_unwinds (query : Query α) :
    Unwinds (query.step tracedStore) queryRole AlwaysAwaits where
  armed := query_step_armed query
  calm := query_step_calm query
  rests := by
    intro phase unit cause progress undoes world next after tried
    cases phase with
    | undoing own reason asked =>
        cases undoes
        simp only [Query.step, tried]
        exact ⟨_, rfl, rfl⟩
    | _ => cases undoes
  ends := by
    intro phase unit cause progress undoes world answer after tried
    cases phase with
    | undoing own reason asked =>
        cases undoes
        simp only [Query.step, tried]
        cases answer with
        | ok finished => exact query_finish_ends query cause after
        | error error => exact query_finish_ends query cause (after.report _)
    | _ => cases undoes

end Queries

/-- Trouble with a rollback masks nothing. From every ledger in memory, a posting and a query that
run alone come to the same result and to the same committed ledger whatever rollbacks have been
ordered to do, and their unit has given up its rows when they have ended. The order is used up if
and only if a rollback has been waited for: when the call has failed midway, and, if it is a
posting, not because its caller has gone. -/
theorem rollback_trouble_unmasked (fails : Bool) (delay : Option Nat) (world : World Memory)
    (happenings : List Happening) :
    (∀ posting : Posting, Unmasked (posting.step tracedStore) AwaitsRollback fails delay
      (alone (posting.step tracedStore) (Posting.start tracedStore) (traced world) happenings)
      (alone (posting.step tracedStore) (Posting.start tracedStore)
        (traced (Memory.order fails delay world)) happenings)) ∧
    ∀ {α : Type} (query : Query α), Unmasked (query.step tracedStore) AlwaysAwaits fails delay
      (alone (query.step tracedStore) (Query.start tracedStore) (traced world) happenings)
      (alone (query.step tracedStore) (Query.start tracedStore)
        (traced (Memory.order fails delay world)) happenings) :=
  ⟨fun posting => (posting_unwinds posting).unmasked rfl fails delay world happenings,
    fun query => (query_unwinds query).unmasked rfl fails delay world happenings⟩

/-- A ledger with one account that fails to record the next entry, and fails to roll back after a
second. -/
private def troubled : World Memory :=
  Memory.order true (some 1000)
    ⟨0, [], { Memory.empty with
      accounts := [⟨⟨1⟩, "alice", "hash", .zero⟩], faults := (· == .append) }, []⟩

example :
    (alone ((Shared.sampleMovement .credit).step tracedStore)
      (Posting.start tracedStore) (traced troubled)
    [.steps, .steps, .steps, .steps, .steps, .passes 1000, .steps]).1 =
      .ended (.error (.store .mutated (Memory.injected .append))) := rfl

end Passbook.Calls
