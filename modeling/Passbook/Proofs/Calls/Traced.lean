import Passbook.Call.Posting
import Passbook.Call.Query

/-!
A store that writes down the calls made of it. The traced form of a store answers as the store
behind does; beside it stands the list of the calls and of their answers, in the order in which they
happened. A call counts as issued when it is tried for the first time, not when it is prepared.
Other callers of the same store are not written down: a trace is that of one caller.
-/

set_option autoImplicit false

namespace Passbook.Calls

inductive Call (υ : Type)
  | opening
  | asking (unit : υ) (request : Request)
  | finishing (unit : υ) (ending : Ending)

/-- The clock and the used tokens, without the rest of the surroundings. -/
def moment {σ : Type} (world : World σ) : World Unit := ⟨world.now, world.cancelled, (), []⟩

/-- The bounds of a caller do not look at the store. -/
theorem interruption_moment {σ : Type} (context : CallContext) (world : World σ) :
    context.interruption (moment world) = context.interruption world := rfl

/-- What a traced store writes down. An answer to a request is kept with the moment at which it was
given. -/
inductive Event (υ : Type)
  | issued (call : Call υ)
  | opened (answer : Except StoreError υ)
  | answered (unit : υ) (request : Request) (answer : Except StoreError request.Reply)
      (given : World Unit)
  | finished (unit : υ) (ending : Ending) (answer : Except StoreError Unit)
  | dropped (unit : υ)

structure Traced (σ υ : Type) where
  inner : σ
  trace : List (Event υ)

namespace Traced

variable {σ υ π α : Type}

/-- The surroundings as the store behind sees them. -/
def inside (world : World (Traced σ υ)) : World σ :=
  ⟨world.now, world.cancelled, world.store.inner, world.events⟩

def outside (world : World (Traced σ υ)) (after : World σ) : World (Traced σ υ) :=
  ⟨after.now, after.cancelled, { world.store with inner := after.store }, after.events⟩

def note (event : Event υ) (world : World (Traced σ υ)) : World (Traced σ υ) :=
  { world with store := { world.store with trace := world.store.trace ++ [event] } }

/-- Writes down that a call is issued, if it has not been tried before. -/
def noteIssue (call : Call υ) (progress : Option π)
    (world : World (Traced σ υ)) : World (Traced σ υ) :=
  match progress with
  | none => note (.issued call) world
  | some _ => world

/-- Tries a call of the store behind. Without progress the call has not been tried yet. -/
def attempt (call : Call υ) (fresh : π) (tell : α → World Unit → Event υ)
    (tryCall : π → World σ → Poll π α × World σ) (progress : Option π)
    (world : World (Traced σ υ)) :
    Poll (Option π) α × World (Traced σ υ) :=
  let world := noteIssue call progress world
  match tryCall (progress.getD fresh) (inside world) with
  | (.waiting next, after) => (.waiting (some next), outside world after)
  | (.ready answer, after) =>
      (.ready answer, note (tell answer (moment after)) (outside world after))

/-- The traced form of a store. -/
def store (behind : LedgerStore σ υ π) : LedgerStore (Traced σ υ) υ (Option π) where
  fresh := none
  tryOpen := attempt .opening behind.fresh (fun answer _ => .opened answer) behind.tryOpen
  tryAsk unit request :=
    attempt (.asking unit request) behind.fresh (.answered unit request)
      (behind.tryAsk unit request)
  tryFinish unit ending :=
    attempt (.finishing unit ending) behind.fresh (fun answer _ => .finished unit ending answer)
      (behind.tryFinish unit ending)
  withdraw unit request progress world :=
    outside world (behind.withdraw unit request (progress.getD behind.fresh) (inside world))
  drop unit world := note (.dropped unit) (outside world (behind.drop unit (inside world)))
  wakeAt progress := progress.bind behind.wakeAt

/-! ## Tracing changes nothing -/

section Erasure

variable (behind : LedgerStore σ υ π)

/-- An attempt of a traced call as the store behind sees it. -/
def erasePoll (attempted : Poll (Option π) α × World (Traced σ υ)) : Poll π α × World σ :=
  match attempted with
  | (.waiting progress, world) => (.waiting (progress.getD behind.fresh), inside world)
  | (.ready answer, world) => (.ready answer, inside world)

def erasePhase : Posting.Phase υ (Option π) → Posting.Phase υ π
  | .opening progress => .opening (progress.getD behind.fresh)
  | .locking unit progress => .locking unit (progress.getD behind.fresh)
  | .writing unit balance progress => .writing unit balance (progress.getD behind.fresh)
  | .appending unit balance progress => .appending unit balance (progress.getD behind.fresh)
  | .committing unit receipt progress => .committing unit receipt (progress.getD behind.fresh)
  | .undoing unit cause progress => .undoing unit cause (progress.getD behind.fresh)

def eraseTurn (taken : Turn (Posting.Phase υ (Option π)) Posting.Result × World (Traced σ υ)) :
    Turn (Posting.Phase υ π) Posting.Result × World σ :=
  match taken with
  | (.rests phase, world) => (.rests (erasePhase behind phase), inside world)
  | (.proceeds phase, world) => (.proceeds (erasePhase behind phase), inside world)
  | (.ends result, world) => (.ends result, inside world)

def eraseTry (tried : Poll (Posting.Phase υ (Option π)) Posting.Result × World (Traced σ υ)) :
    Poll (Posting.Phase υ π) Posting.Result × World σ :=
  match tried with
  | (.waiting phase, world) => (.waiting (erasePhase behind phase), inside world)
  | (.ready result, world) => (.ready result, inside world)

theorem inside_noteIssue (call : Call υ) (progress : Option π) (world : World (Traced σ υ)) :
    inside (noteIssue call progress world) = inside world := by
  cases progress with
  | none => rfl
  | some _ => rfl

theorem attempt_erased (call : Call υ) (tell : α → World Unit → Event υ)
    (tryCall : π → World σ → Poll π α × World σ) (progress : Option π)
    (world : World (Traced σ υ)) :
    erasePoll behind (attempt call behind.fresh tell tryCall progress world) =
      tryCall (progress.getD behind.fresh) (inside world) := by
  simp only [attempt, inside_noteIssue]
  rcases tryCall (progress.getD behind.fresh) (inside world) with ⟨next | answer, after⟩
  · rfl
  · rfl

theorem tryOpenBy_erased (deadline : Deadline) (progress : Option π) (world : World (Traced σ υ)) :
    erasePoll behind ((store behind).tryOpenBy deadline progress world) =
      behind.tryOpenBy deadline (progress.getD behind.fresh) (inside world) := by
  have tried : erasePoll behind ((store behind).tryOpen progress world) =
      behind.tryOpen (progress.getD behind.fresh) (inside world) :=
    attempt_erased behind .opening (fun answer _ => .opened answer) behind.tryOpen progress world
  unfold LedgerStore.tryOpenBy
  rw [← tried]
  rcases (store behind).tryOpen progress world with ⟨next | answer, after⟩
  · by_cases passed : deadline.hasPassed after.now = true
    · have clock : deadline.hasPassed (inside after).now = true := passed
      simp only [erasePoll, if_pos passed, if_pos clock]
    · have clock : ¬ deadline.hasPassed (inside after).now = true := passed
      simp only [erasePoll, if_neg passed, if_neg clock]
  · rfl

theorem tryFinish_erased (unit : υ) (ending : Ending) (progress : Option π)
    (world : World (Traced σ υ)) :
    erasePoll behind ((store behind).tryFinish unit ending progress world) =
      behind.tryFinish unit ending (progress.getD behind.fresh) (inside world) :=
  attempt_erased behind (.finishing unit ending) (fun answer _ => .finished unit ending answer)
    (behind.tryFinish unit ending) progress world

theorem guardedAsk_erased (posting : Posting) (stage : Stage) (unit : υ) (request : Request)
    (progress : Option π) (world : World (Traced σ υ)) :
    erasePoll behind (posting.guardedAsk (store behind) stage unit request progress world) =
      posting.guardedAsk behind stage unit request (progress.getD behind.fresh) (inside world) := by
  have tried : erasePoll behind ((store behind).tryAsk unit request progress world) =
      behind.tryAsk unit request (progress.getD behind.fresh) (inside world) :=
    attempt_erased behind (.asking unit request) _ (behind.tryAsk unit request) progress world
  have clock : posting.context.interruption (inside world) = posting.context.interruption world :=
    rfl
  unfold Posting.guardedAsk Posting.guarded
  rw [← tried, clock]
  cases posting.context.interruption world with
  | some interruption => rfl
  | none =>
      rcases (store behind).tryAsk unit request progress world with ⟨next | answer, after⟩
      · rfl
      · rfl

theorem guardedOpen_erased (posting : Posting) (progress : Option π) (world : World (Traced σ υ)) :
    erasePoll behind (posting.guarded .idle id
        ((store behind).tryOpenBy posting.context.deadline progress) world) =
      posting.guarded .idle id
        (behind.tryOpenBy posting.context.deadline (progress.getD behind.fresh))
          (inside world) := by
  have tried := tryOpenBy_erased behind posting.context.deadline progress world
  have clock : posting.context.interruption (inside world) = posting.context.interruption world :=
    rfl
  unfold Posting.guarded
  rw [← tried, clock]
  cases posting.context.interruption world with
  | some interruption => rfl
  | none =>
      rcases (store behind).tryOpenBy posting.context.deadline progress world
        with ⟨next | answer, after⟩
      · rfl
      · rfl

theorem abort_erased (unit : υ) (cause : PostingError) (world : World (Traced σ υ)) :
    eraseTurn behind (Posting.abort (store behind) unit cause world) =
      Posting.abort behind unit cause (inside world) := by
  unfold Posting.abort
  split
  · rfl
  · rfl

theorem judge_erased (posting : Posting) (unit : υ) (account : Account)
    (world : World (Traced σ υ)) :
    eraseTurn behind (posting.judge (store behind) unit account world) =
      posting.judge behind unit account (inside world) := by
  unfold Posting.judge
  cases post account.balance posting.kind posting.amount with
  | ok balance => rfl
  | error refusal => exact abort_erased behind unit _ _

theorem decideCommit_erased (posting : Posting) (unit : υ) (receipt : Receipt)
    (world : World (Traced σ υ)) :
    eraseTurn behind (posting.decideCommit (store behind) unit receipt world) =
      posting.decideCommit behind unit receipt (inside world) := by
  have clock : posting.context.interruption (inside world) = posting.context.interruption world :=
    rfl
  unfold Posting.decideCommit
  rw [clock]
  cases posting.context.interruption world with
  | some interruption => exact abort_erased behind unit _ world
  | none => rfl

/-- A step of a posting does the same over a store and over its traced form. -/
theorem step_erased (posting : Posting) (phase : Posting.Phase υ (Option π))
    (world : World (Traced σ υ)) :
    eraseTurn behind (posting.step (store behind) phase world) =
      posting.step behind (erasePhase behind phase) (inside world) := by
  cases phase with
  | opening progress =>
      have tried := guardedOpen_erased behind posting progress world
      simp only [Posting.step, erasePhase, ← tried]
      rcases posting.guarded .idle id ((store behind).tryOpenBy posting.context.deadline progress)
        world with
        ⟨next | error | unit, after⟩
      · rfl
      · rfl
      · rfl
  | locking unit progress =>
      have tried := guardedAsk_erased behind posting .idle unit posting.lockRequest progress world
      simp only [Posting.step, erasePhase, ← tried]
      rcases posting.guardedAsk (store behind) .idle unit posting.lockRequest progress world with
        ⟨next | error | _ | account, after⟩
      · rfl
      · exact abort_erased behind unit error after
      · exact abort_erased behind unit _ after
      · exact judge_erased behind posting unit account after
  | writing unit balance progress =>
      have tried :=
        guardedAsk_erased behind posting .validated unit
          (posting.balanceRequest balance) progress world
      simp only [Posting.step, erasePhase, ← tried]
      rcases posting.guardedAsk (store behind) .validated unit
        (posting.balanceRequest balance) progress world with
        ⟨next | error | written, after⟩
      · rfl
      · exact abort_erased behind unit error after
      · rfl
  | appending unit balance progress =>
      have tried :=
        guardedAsk_erased behind posting .mutated unit posting.entryRequest progress world
      simp only [Posting.step, erasePhase, ← tried]
      rcases posting.guardedAsk (store behind) .mutated unit posting.entryRequest progress world
        with
        ⟨next | error | entry, after⟩
      · rfl
      · exact abort_erased behind unit error after
      · exact decideCommit_erased behind posting unit _ after
  | committing unit receipt progress =>
      have tried := tryFinish_erased behind unit .commit progress world
      simp only [Posting.step, erasePhase, ← tried]
      rcases (store behind).tryFinish unit .commit progress world
        with ⟨next | error | finished, after⟩
      · rfl
      · rfl
      · rfl
  | undoing unit cause progress =>
      have tried := tryFinish_erased behind unit .rollback progress world
      simp only [Posting.step, erasePhase, ← tried]
      rcases (store behind).tryFinish unit .rollback progress world
        with ⟨next | error | finished, after⟩
      · rfl
      · rfl
      · rfl

theorem tryPost_erased (posting : Posting) (phase : Posting.Phase υ (Option π))
    (world : World (Traced σ υ)) :
    eraseTry behind (posting.tryPost (store behind) phase world) =
      posting.tryPost behind (erasePhase behind phase) (inside world) := by
  unfold Posting.tryPost
  generalize 7 = steps
  induction steps generalizing phase world with
  | zero => rfl
  | succ steps ih =>
      have taken := step_erased behind posting phase world
      simp only [settle, ← taken]
      rcases posting.step (store behind) phase world with ⟨next | next | result, after⟩
      · rfl
      · exact ih next after
      · rfl

theorem giveUp_erased (posting : Posting) (phase : Posting.Phase υ (Option π))
    (world : World (Traced σ υ)) :
    inside (posting.giveUp (store behind) phase world) =
      posting.giveUp behind (erasePhase behind phase) (inside world) := by
  cases phase with
  | opening _ => rfl
  | locking _ _ => rfl
  | writing _ _ _ => rfl
  | appending _ _ _ => rfl
  | committing _ _ _ => rfl
  | undoing _ _ _ => rfl

/-! ### Queries -/

def eraseQuery : Query.Phase υ (Option π) α → Query.Phase υ π α
  | .opening progress => .opening (progress.getD behind.fresh)
  | .asking unit request next progress => .asking unit request next (progress.getD behind.fresh)
  | .committing unit answer progress => .committing unit answer (progress.getD behind.fresh)
  | .undoing unit cause progress => .undoing unit cause (progress.getD behind.fresh)

def eraseQueryTurn
    (taken : Turn (Query.Phase υ (Option π) α) (Query.Result α) × World (Traced σ υ)) :
    Turn (Query.Phase υ π α) (Query.Result α) × World σ :=
  match taken with
  | (.rests phase, world) => (.rests (eraseQuery behind phase), inside world)
  | (.proceeds phase, world) => (.proceeds (eraseQuery behind phase), inside world)
  | (.ends result, world) => (.ends result, inside world)

theorem finishQuery_erased (query : Query α) (result : Query.Result α)
    (world : World (Traced σ υ)) :
    eraseQueryTurn behind (query.finish result world) = query.finish result (inside world) := by
  cases result with
  | ok answer => rfl
  | error error =>
      unfold Query.finish
      cases query.isReported with
      | true => rfl
      | false => rfl

theorem proceed_erased (unit : υ) (script : Script α) :
    eraseQuery behind (Query.proceed (store behind) unit script) =
      Query.proceed behind unit script := by
  cases script with
  | done answer => rfl
  | ask request next => rfl

/-- A step of a query does the same over a store and over its traced form. -/
theorem stepQuery_erased (query : Query α) (phase : Query.Phase υ (Option π) α)
    (world : World (Traced σ υ)) :
    eraseQueryTurn behind (query.step (store behind) phase world) =
      query.step behind (eraseQuery behind phase) (inside world) := by
  cases phase with
  | opening progress =>
      have tried := tryOpenBy_erased behind query.deadline progress world
      simp only [Query.step, eraseQuery, ← tried]
      rcases (store behind).tryOpenBy query.deadline progress world
        with ⟨next | error | unit, after⟩
      · rfl
      · exact finishQuery_erased behind query _ after
      · simp only [eraseQueryTurn, erasePoll, proceed_erased]
  | asking unit request script progress =>
      have tried : erasePoll behind ((store behind).tryAsk unit request progress world) =
          behind.tryAsk unit request (progress.getD behind.fresh) (inside world) :=
        attempt_erased behind (.asking unit request) _ (behind.tryAsk unit request) progress world
      simp only [Query.step, eraseQuery, ← tried]
      rcases (store behind).tryAsk unit request progress world with ⟨next | error | reply, after⟩
      · rfl
      · rfl
      · simp only [eraseQueryTurn, erasePoll, proceed_erased]
  | committing unit answer progress =>
      have tried := tryFinish_erased behind unit .commit progress world
      simp only [Query.step, eraseQuery, ← tried]
      rcases (store behind).tryFinish unit .commit progress world
        with ⟨next | error | finished, after⟩
      · rfl
      · exact finishQuery_erased behind query _ after
      · exact finishQuery_erased behind query _ after
  | undoing unit cause progress =>
      have tried := tryFinish_erased behind unit .rollback progress world
      simp only [Query.step, eraseQuery, ← tried]
      rcases (store behind).tryFinish unit .rollback progress world
        with ⟨next | error | finished, after⟩
      · rfl
      · exact finishQuery_erased behind query _ (after.report _)
      · exact finishQuery_erased behind query _ after

end Erasure

end Traced

end Passbook.Calls
