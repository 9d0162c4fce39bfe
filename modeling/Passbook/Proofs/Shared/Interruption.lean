import Passbook.Proofs.Shared.ExactlyOnce
import Passbook.Proofs.Shared.Fate
import Passbook.Proofs.Shared.Moment

/-!
Interrupted postings. A posting that is interrupted before it has begun to end its unit of work
takes at most one more step. With that step it drops its unit and answers with the interruption, and
the ledger is what it was but for the unit. Once a posting has begun to end its unit, the bounds of
its caller make no difference any more.
-/

set_option autoImplicit false

namespace Passbook

namespace Memory

/-- The ledger without a unit of work, if there is one. -/
def without (memory : Memory) : Option UnitId → Memory
  | none => memory
  | some unit => memory.discard unit

theorem discard_leave (memory : Memory) (unit : UnitId) (id : AccountId) :
    (memory.leave unit id).discard unit = memory.discard unit := by
  have queues : ∀ row, ((memory.leave unit id).queues row).filter (· != unit) =
      (memory.queues row).filter (· != unit) := by
    intro row
    rw [queues_leave]
    split
    · next same => simp only [same, List.filter_filter, Bool.and_self]
    · rfl
  simp only [discard, funext queues]
  rfl

theorem discard_withdraw (unit : UnitId) (request : Request) (progress : Progress)
    (world : World Memory) :
    (withdraw unit request progress world).store.discard unit = world.store.discard unit := by
  unfold withdraw
  split
  · exact discard_leave _ _ _
  · exact discard_leave _ _ _
  · rfl

end Memory

namespace Posting

open Memory (Progress)

/-- The last stage that a posting has reached in a phase. -/
def Phase.stage {υ π : Type} : Phase υ π → Stage
  | .opening _ => .idle
  | .locking _ _ => .idle
  | .writing _ _ _ => .validated
  | .appending _ _ _ => .mutated
  | .committing _ _ _ => .recorded
  | .undoing _ _ _ => .rolledBack

variable {posting : Posting} {phase : Phase UnitId Progress} {world : World Memory}
  {reason : Interruption}

private theorem guardedAsk_interrupted {stage : Stage} {unit : UnitId} {request : Request}
    {progress : Progress} (interrupted : posting.context.interruption world = some reason) :
    guardedAsk Memory.store posting stage unit request progress world =
      (.ready (.error (.ofInterruption stage reason)),
        Memory.withdraw unit request progress world) := by
  simp only [guardedAsk, guarded, interrupted]
  rfl

private theorem abort_withdrawn (stage : Stage) (reason : Interruption) (unit : UnitId)
    (request : Request) (progress : Progress) (world : World Memory) :
    (abort Memory.store unit (.ofInterruption stage reason)
      (Memory.withdraw unit request progress world)).1 =
        .ends (.error (.ofInterruption stage reason)) ∧
      (abort Memory.store unit (.ofInterruption stage reason)
        (Memory.withdraw unit request progress world)).2.store =
        world.store.discard unit := by
  obtain ⟨ends, left⟩ := abort_interruption unit _ (ofInterruption_isInterruption stage reason)
    (Memory.withdraw unit request progress world)
  exact ⟨ends, left.trans (Memory.discard_withdraw unit request progress world)⟩

/-- The only step that an interrupted posting takes before it has begun to end its unit. -/
theorem step_interrupted (early : phase.isEnding = false)
    (interrupted : posting.context.interruption world = some reason) :
    (posting.step Memory.store phase world).1 =
      .ends (.error (.ofInterruption phase.stage reason)) ∧
      (posting.step Memory.store phase world).2.store = world.store.without phase.unit? := by
  cases phase with
  | opening progress =>
      simp only [step, guarded, interrupted]
      exact ⟨rfl, rfl⟩
  | locking unit progress =>
      simp only [step, guardedAsk_interrupted interrupted]
      exact abort_withdrawn .idle reason unit _ progress world
  | writing unit balance progress =>
      simp only [step, guardedAsk_interrupted interrupted]
      exact abort_withdrawn .validated reason unit _ progress world
  | appending unit balance progress =>
      simp only [step, guardedAsk_interrupted interrupted]
      exact abort_withdrawn .mutated reason unit _ progress world
  | committing unit receipt progress => cases early
  | undoing unit cause progress => cases early

theorem giveUp_without (posting : Posting) (phase : Phase UnitId Progress) (world : World Memory) :
    (giveUp Memory.store posting phase world).store = world.store.without phase.unit? := by
  cases phase with
  | opening progress => rfl
  | locking unit progress => exact Memory.discard_withdraw unit posting.lockRequest progress world
  | writing unit balance progress =>
      exact Memory.discard_withdraw unit (posting.balanceRequest balance) progress world
  | appending unit balance progress =>
      exact Memory.discard_withdraw unit posting.entryRequest progress world
  | committing unit receipt progress => rfl
  | undoing unit cause progress => rfl

end Posting

namespace Shared

open Memory (Progress)

variable {earlier later : List Action} {id : ClientId} {posting : Posting}
  {phase : Posting.Phase UnitId Progress} {state : State} {action : Action}

/-- What becomes of a posting that has been interrupted in a phase, in the course of later actions.
-/
structure Halts (earlier later : List Action) (id : ClientId) (posting : Posting)
    (phase : Posting.Phase UnitId Progress) : Prop where
  /-- Nobody else moves it. -/
  rests : (∀ action ∈ later, ¬ action.isStepOf id) →
    (run (earlier ++ later)).clients id = some (.posting posting (.running phase))
  /-- Its first step is its last one. It answers with the interruption that it finds, unless it is
  given up. -/
  stops : (∃ action ∈ later, action.isStepOf id) →
    (∃ between reason, between ++ [.proceed id] <+: later ∧
        posting.context.interruption (run (earlier ++ between)).world = some reason ∧
        (run (earlier ++ later)).clients id =
          some (.posting posting (.ended (.error (.ofInterruption phase.stage reason))))) ∨
      (.giveUp id ∈ later ∧ (run (earlier ++ later)).clients id = some (.posting posting .dropped))
  /-- A step of it makes nothing of the ledger but to take its unit away, and never gets it a row.
  -/
  leaves : ∀ between action, between ++ [action] <+: later → action.isStepOf id →
    (run (earlier ++ between ++ [action])).memory =
        (run (earlier ++ between)).memory.without ((run (earlier ++ between)).unitOf id) ∧
      (run (earlier ++ between ++ [action])).grants = (run (earlier ++ between)).grants
  /-- A posting that has not got a unit yet leaves everything as it is. -/
  spares : phase.unit? = none → ∀ between action, between ++ [action] <+: later →
    action.isStepOf id →
    (run (earlier ++ between ++ [action])).memory = (run (earlier ++ between)).memory
  unseen : TookNoEffect (earlier ++ later) id

/-!
## Before the end of the unit
-/

/-- How far an interrupted posting has come in the course of later actions. -/
private inductive Halting (earlier later : List Action) (id : ClientId) (posting : Posting)
    (phase : Posting.Phase UnitId Progress) :
    Prop
  | rests (untaken : ∀ action ∈ later, ¬ action.isStepOf id)
      (known : (run (earlier ++ later)).clients id = some (.posting posting (.running phase)))
  | answers {between : List Action} {reason : Interruption}
      (taken : between ++ [.proceed id] <+: later)
      (found : posting.context.interruption (run (earlier ++ between)).world = some reason)
      (known : (run (earlier ++ later)).clients id =
        some (.posting posting (.ended (.error (.ofInterruption phase.stage reason)))))
  | dropped (given : .giveUp id ∈ later)
      (known : (run (earlier ++ later)).clients id = some (.posting posting .dropped))

/-- What an action makes of a posting whose step it is not. -/
private theorem clients_of_others {course : Course (Posting.Phase UnitId Progress) Posting.Result}
    (owned : state.Owned) (known : state.clients id = some (.posting posting course))
    (other : ¬ action.isStepOf id) :
    (state.perform action).clients id = some (.posting posting course) := by
  cases perform_fate owned known action with
  | spared same effect apart owner => exact same
  | proceeds now world => exact absurd rfl other
  | givesUp now world => exact absurd rfl other
  | asks idle now world => cases idle
  | finishes idle now world => cases idle

/-- A posting that is over takes no more steps. -/
private theorem clients_of_over {client : Client} (known : state.clients id = some client)
    (isOver : client.isOver = true) (own : action.isStepOf id) :
    (state.perform action).clients id = some client ∧ (state.perform action).memory = state.memory ∧
      (state.perform action).grants = state.grants := by
  have ungained : ∀ world, client.gainsRow world = false := by
    intro world
    cases client with
    | posting wanted course => cases course <;> first | rfl | cases isOver
    | inquiry asked course => rfl
    | hand course => rfl
  cases action with
  | proceed client =>
      cases own
      obtain ⟨world, now⟩ := State.perform_proceed known
      rw [Client.proceed_of_isOver isOver] at world now
      refine ⟨now, congrArg World.store world, ?_⟩
      simp only [State.perform, known, ungained, Bool.false_eq_true, if_false]
  | giveUp client =>
      cases own
      obtain ⟨world, now⟩ := State.perform_giveUp known
      rw [Client.giveUp_of_isOver isOver] at world now
      exact ⟨now, congrArg World.store world, by simp only [State.perform, known, State.settle]⟩
  | _ => cases own

/-- The step of a posting that has been interrupted before the end of its unit. -/
private theorem clients_of_interrupted {reason : Interruption}
    (known : state.clients id = some (.posting posting (.running phase)))
    (early : phase.isEnding = false)
    (interrupted : posting.context.interruption state.world = some reason)
    (own : action.isStepOf id) :
    ((action = .proceed id ∧ (state.perform action).clients id =
          some (.posting posting (.ended (.error (.ofInterruption phase.stage reason))))) ∨
        (action = .giveUp id ∧ (state.perform action).clients id =
          some (.posting posting .dropped))) ∧
      (state.perform action).memory = state.memory.without phase.unit? ∧
        (state.perform action).grants = state.grants := by
  cases action with
  | proceed client =>
      cases own
      obtain ⟨world, now⟩ := State.perform_proceed known
      obtain ⟨ends, left⟩ := Posting.step_interrupted early interrupted
      have turned : ((Client.posting posting (.running phase)).proceed state.world).1 =
          .posting posting (.ofTurn (posting.step Memory.store phase state.world).1) := rfl
      rw [turned, ends] at now
      refine ⟨.inl ⟨rfl, now⟩, (congrArg World.store world).trans left, ?_⟩
      have ungained : (Client.posting posting (.running phase)).gainsRow
          ((Client.posting posting (.running phase)).proceed state.world).2 = false := by
        cases phase with
        | locking unit progress =>
            change (posting.step Memory.store (.locking unit progress) state.world).2.store.holds
              unit posting.account = false
            rw [left]
            exact Memory.not_holds_discard _ _ _
        | _ => rfl
      simp only [State.perform, known, ungained, Bool.false_eq_true, if_false, State.settle]
  | giveUp client =>
      cases own
      obtain ⟨world, now⟩ := State.perform_giveUp known
      refine ⟨.inr ⟨rfl, now⟩,
        (congrArg World.store world).trans (posting.giveUp_without phase state.world), ?_⟩
      simp only [State.perform, known, State.settle]
  | _ => cases own

private theorem halting_run
    (known : (run earlier).clients id = some (.posting posting (.running phase)))
    (early : phase.isEnding = false)
    (interrupted : posting.context.interruption (run earlier).world ≠ none) (later : List Action) :
    Halting earlier later id posting phase := by
  induction later using List.reverseRecOn with
  | nil =>
      refine .rests (fun action member => by cases member) ?_
      rwa [List.append_nil]
  | append_singleton later action ih =>
      have next := run_append_concat earlier later action
      have owned := owned_run (earlier ++ later)
      by_cases own : action.isStepOf id
      · obtain ⟨untaken, now⟩ | ⟨taken, found, now⟩ | ⟨given, now⟩ := ih
        · obtain ⟨reason, found⟩ :=
            Option.ne_none_iff_exists'.mp (interrupted_onwards interrupted later)
          obtain ⟨⟨rfl, ended⟩ | ⟨rfl, dropped⟩, _⟩ := clients_of_interrupted now early found own
          · exact .answers List.prefix_rfl found (by rw [next]; exact ended)
          · exact .dropped (by simp) (by rw [next]; exact dropped)
        · refine .answers (taken.trans (List.prefix_append _ _)) found ?_
          rw [next]
          exact (clients_of_over now rfl own).1
        · refine .dropped (List.mem_append_left _ given) ?_
          rw [next]
          exact (clients_of_over now rfl own).1
      · obtain ⟨untaken, now⟩ | ⟨taken, found, now⟩ | ⟨given, now⟩ := ih
        · refine .rests (fun other member => ?_) ?_
          · rcases List.mem_append.mp member with old | new
            · exact untaken other old
            · exact List.mem_singleton.mp new ▸ own
          · rw [next]
            exact clients_of_others owned now own
        · refine .answers (taken.trans (List.prefix_append _ _)) found ?_
          rw [next]
          exact clients_of_others owned now own
        · refine .dropped (List.mem_append_left _ given) ?_
          rw [next]
          exact clients_of_others owned now own

/-- What a step of an interrupted posting makes of the ledger, at any moment after the interruption.
-/
private theorem Halting.leaves (halting : Halting earlier later id posting phase)
    (early : phase.isEnding = false)
    (interrupted : posting.context.interruption (run (earlier ++ later)).world ≠ none)
    (own : action.isStepOf id) :
    ((run (earlier ++ later)).unitOf id = phase.unit? ∨ (run (earlier ++ later)).unitOf id = none) ∧
      ((run (earlier ++ later)).perform action).memory =
        (run (earlier ++ later)).memory.without ((run (earlier ++ later)).unitOf id) ∧
      ((run (earlier ++ later)).perform action).grants = (run (earlier ++ later)).grants := by
  have settled : ∀ client, (run (earlier ++ later)).clients id = some client →
    client.isOver = true →
      (run (earlier ++ later)).unitOf id = none ∧ ((run (earlier ++ later)).perform action).memory =
        (run (earlier ++ later)).memory ∧ ((run (earlier ++ later)).perform action).grants =
          (run (earlier ++ later)).grants := by
    intro client known isOver
    refine ⟨?_, (clients_of_over known isOver own).2⟩
    rw [State.unitOf, known]
    exact Client.unit?_of_isOver isOver
  cases halting with
  | rests untaken known =>
      obtain ⟨reason, found⟩ := Option.ne_none_iff_exists'.mp interrupted
      have unit : (run (earlier ++ later)).unitOf id = phase.unit? := by
        rw [State.unitOf, known]
        rfl
      rw [unit]
      exact ⟨.inl rfl, (clients_of_interrupted known early found own).2⟩
  | answers taken found known =>
      obtain ⟨none, same, grants⟩ := settled _ known rfl
      rw [none]
      exact ⟨.inr rfl, same, grants⟩
  | dropped given known =>
      obtain ⟨none, same, grants⟩ := settled _ known rfl
      rw [none]
      exact ⟨.inr rfl, same, grants⟩

private theorem halts_of_interrupted
    (known : (run earlier).clients id = some (.posting posting (.running phase)))
    (early : phase.isEnding = false)
    (interrupted : posting.context.interruption (run earlier).world ≠ none) (later : List Action) :
    Halts earlier later id posting phase := by
  have halting := halting_run known early interrupted
  have stepped : ∀ between action, run (earlier ++ between ++ [action]) =
      (run (earlier ++ between)).perform action :=
    fun between action => run_append _ [action]
  have leaves := fun between (action : Action) (own : action.isStepOf id) =>
    (halting between).leaves early (interrupted_onwards interrupted between) own
  refine ⟨fun untaken => ?_,
    fun taken => ?_, fun between action _ own => ?_, fun unopened between action _ own => ?_, ?_⟩
  · cases halting later with
    | rests _ now => exact now
    | answers taken found now => exact absurd rfl (untaken (.proceed id) (taken.subset (by simp)))
    | dropped given now => exact absurd rfl (untaken (.giveUp id) given)
  · cases halting later with
    | rests untaken now =>
        obtain ⟨action, member, own⟩ := taken
        exact absurd own (untaken action member)
    | answers taken found now => exact .inl ⟨_, _, taken, found, now⟩
    | dropped given now => exact .inr ⟨given, now⟩
  · rw [stepped]
    exact (leaves between action own).2
  · obtain ⟨unit, same, _⟩ := leaves between action own
    have none : (run (earlier ++ between)).unitOf id = none :=
      unit.elim (·.trans unopened) fun none => none
    rw [stepped, same, none]
    rfl
  · have accounted := accounted_run (earlier ++ later) id
    cases halting later with
    | rests _ now =>
        rw [now] at accounted
        exact accounted
    | answers taken found now =>
        rw [now] at accounted
        exact accounted
    | dropped given now =>
        rw [now] at accounted
        exact accounted

/-!
## After the end of the unit has begun
-/

/-- The client with other bounds, if it is a posting. -/
def Client.withContext (context : CallContext) : Client → Client
  | .posting posting course => .posting { posting with context } course
  | client => client

/-- The state in which one posting has other bounds. -/
def State.withContext (state : State) (id : ClientId) (context : CallContext) : State :=
  { state with
    clients :=
      fun other => if other = id then (state.clients other).map (Client.withContext context) else
        state.clients other }

/-- Whether a posting has begun to end its unit of work, or is over. -/
def Course.isClosing : Course (Posting.Phase UnitId Progress) Posting.Result → Bool
  | .running phase => phase.isEnding
  | .ended _ => true
  | .dropped => true

theorem State.world_withContext (state : State) (id : ClientId) (context : CallContext) :
    (state.withContext id context).world = state.world := rfl

theorem State.clients_withContext_other {other : ClientId} (different : other ≠ id) (state : State)
    (context : CallContext) :
    (state.withContext id context).clients other = state.clients other := if_neg different

theorem State.clients_withContext_same (state : State) (id : ClientId) (context : CallContext) :
    (state.withContext id context).clients id =
      (state.clients id).map (Client.withContext context) :=
  if_pos rfl

variable {course : Course (Posting.Phase UnitId Progress) Posting.Result} {context : CallContext}

/-- The steps of a posting that ends its unit do not depend on its bounds. -/
private theorem proceed_withContext (posting : Posting) (context : CallContext)
    (closing : course.isClosing = true) (world : World Memory) :
    ∃ next : Course (Posting.Phase UnitId Progress) Posting.Result, next.isClosing = true ∧
      ((Client.posting posting course).proceed world).1 = .posting posting next ∧
      ((Client.posting posting course).withContext context).proceed world =
        (.posting { posting with context } next,
          ((Client.posting posting course).proceed world).2) ∧
      (∀ after, ((Client.posting posting course).withContext context).gainsRow after =
        (Client.posting posting course).gainsRow after) := by
  cases course with
  | ended result => exact ⟨_, rfl, rfl, rfl, fun _ => rfl⟩
  | dropped => exact ⟨_, rfl, rfl, rfl, fun _ => rfl⟩
  | running phase =>
      refine ⟨.ofTurn (posting.step Memory.store phase world).1, ?_, rfl, ?_, ?_⟩
      · have move := posting.step_move phase world
        generalize (posting.step Memory.store phase world).1 = turn,
          (posting.step Memory.store phase world).2.store = left at move
        cases move <;> first | rfl | cases closing
      · cases phase with
        | committing unit receipt progress => rfl
        | undoing unit cause progress => rfl
        | _ => cases closing
      · intro after
        cases phase with
        | locking unit progress => cases closing
        | _ => rfl

private theorem giveUp_withContext (posting : Posting) (context : CallContext)
    (closing : course.isClosing = true) (world : World Memory) :
    ∃ next : Course (Posting.Phase UnitId Progress) Posting.Result, next.isClosing = true ∧
      ((Client.posting posting course).giveUp world).1 = .posting posting next ∧
      ((Client.posting posting course).withContext context).giveUp world =
        (.posting { posting with context } next,
          ((Client.posting posting course).giveUp world).2) := by
  cases course with
  | ended result => exact ⟨_, rfl, rfl, rfl⟩
  | dropped => exact ⟨_, rfl, rfl, rfl⟩
  | running phase =>
      refine ⟨.dropped, rfl, rfl, ?_⟩
      cases phase with
      | committing unit receipt progress => rfl
      | undoing unit cause progress => rfl
      | _ => cases closing

private theorem withContext_welcome (owned : state.Owned)
    (known : state.clients id = some (.posting posting course)) (another : Client) :
    (state.withContext id context).welcome another =
      (state.welcome another).withContext id context := by
  have old : (⟨state.lastClient + 1⟩ : ClientId) ≠ id := by
    intro same
    rw [← same, owned.next_clients] at known
    cases known
  have clients : ∀ other, ((state.withContext id context).welcome another).clients other =
      ((state.welcome another).withContext id context).clients other := by
    intro other
    by_cases isNew : other = ⟨state.lastClient + 1⟩
    · rw [isNew, State.clients_withContext_other old]
      exact (assign_same _ _ _).trans (assign_same _ _ _).symm
    · have left : ((state.withContext id context).welcome another).clients other =
          (state.withContext id context).clients other := assign_other _ _ isNew
      have right : (state.welcome another).clients other = state.clients other :=
        assign_other _ _ isNew
      rw [left]
      by_cases mine : other = id
      · rw [mine] at right ⊢
        rw [State.clients_withContext_same, State.clients_withContext_same, right]
      · rw [State.clients_withContext_other mine, State.clients_withContext_other mine, right]
  have same : ((state.withContext id context).welcome another).clients =
      ((state.welcome another).withContext id context).clients := funext clients
  simp only [State.welcome, State.withContext] at same ⊢
  rw [same]

/-- Replacing a client commutes with changing the bounds of a posting. -/
private theorem assign_withContext (actor : ClientId) (client next : Client) (context : CallContext)
    (state : State) (replaced : actor = id → client = next.withContext context)
    (kept : actor ≠ id → client = next) :
    assign (state.withContext id context).clients actor (some client) =
      fun other => if other = id then
        (assign state.clients actor (some next) other).map (Client.withContext context) else
        assign state.clients actor (some next) other := by
  funext other
  by_cases same : other = actor
  · rw [same, assign_same, assign_same]
    split
    · next mine => rw [replaced mine, Option.map_some]
    · next mine => rw [kept mine]
  · rw [assign_other _ _ same, assign_other _ _ same]
    rfl

private theorem withContext_direct (known : state.clients id = some (.posting posting course))
    (actor : ClientId) (task : UnitId → Hand) :
    (state.withContext id context).direct actor task =
      (state.direct actor task).withContext id context := by
  by_cases mine : actor = id
  · subst mine
    simp only [State.direct, State.clients_withContext_same, known,
      Option.map_some, Client.withContext]
  · simp only [State.direct, State.clients_withContext_other mine]
    split
    · next unit last idle =>
        have clients :=
          assign_withContext actor (.hand (.running (task unit))) (.hand (.running (task unit)))
            context state (fun same => absurd same mine) fun _ => rfl
        rw [clients]
        rfl
    · rfl

/-- A step of the posting itself commutes with the change of its bounds. -/
private theorem withContext_settle {next : Course (Posting.Phase UnitId Progress) Posting.Result}
    {done : Client × World Memory} (now : done.1 = .posting posting next) :
    (state.withContext id context).settle id (.posting { posting with context } next, done.2) =
      (state.settle id done).withContext id context := by
  have clients :=
    assign_withContext id (.posting { posting with context } next) done.1 context state
      (fun _ => by rw [now]; rfl) fun different => absurd rfl different
  simp only [State.settle, clients]
  rfl

/-- So does a step of another client. -/
private theorem withContext_settle_other {actor : ClientId} (different : actor ≠ id)
    (done : Client × World Memory) :
    (state.withContext id context).settle actor done =
      (state.settle actor done).withContext id context := by
  have clients := assign_withContext actor done.1 done.1 context state
    (fun same => absurd same different) fun _ => rfl
  simp only [State.settle, clients]
  rfl

/-- What happens to a ledger does not depend on the bounds of a posting that has begun to end its
unit. -/
private theorem perform_withContext (owned : state.Owned)
    (known : state.clients id = some (.posting posting course)) (closing : course.isClosing = true)
    (action : Action) :
    (state.withContext id context).perform action = (state.perform action).withContext id context ∧
      ∃ next : Course (Posting.Phase UnitId Progress) Posting.Result,
        (state.perform action).clients id = some (.posting posting next) ∧
          next.isClosing = true := by
  have bound : (state.withContext id context).clients id =
      some ((Client.posting posting course).withContext context) := by
    rw [State.clients_withContext_same, known, Option.map_some]
  by_cases own : action.isStepOf id
  · cases action with
    | proceed actor =>
        cases own
        obtain ⟨next, still, now, other, gains⟩ :=
          proceed_withContext posting context closing state.world
        refine ⟨?_, next, by rw [(State.perform_proceed known).2, now], still⟩
        simp only [State.perform, known, bound]
        rw [State.world_withContext, other, gains, withContext_settle now]
        rfl
    | giveUp actor =>
        cases own
        obtain ⟨next, still, now, other⟩ := giveUp_withContext posting context closing state.world
        refine ⟨?_, next, by rw [(State.perform_giveUp known).2, now], still⟩
        simp only [State.perform, known, bound]
        rw [State.world_withContext, other, withContext_settle now]
    | _ => cases own
  · refine ⟨?_, course, clients_of_others owned known own, closing⟩
    cases action with
    | wait milliseconds => rfl
    | cancel token => rfl
    | failNext point => rfl
    | delayNext point milliseconds => rfl
    | post wanted => exact withContext_welcome owned known _
    | inquire inquiry => exact withContext_welcome owned known _
    | openUnit deadline => exact withContext_welcome owned known _
    | ask actor request => exact withContext_direct known actor _
    | finish actor ending => exact withContext_direct known actor _
    | proceed actor =>
        have different : actor ≠ id := own
        simp only [State.perform, State.clients_withContext_other different]
        cases state.clients actor with
        | none => rfl
        | some client =>
            dsimp only
            rw [State.world_withContext, withContext_settle_other different]
            rfl
    | giveUp actor =>
        have different : actor ≠ id := own
        simp only [State.perform, State.clients_withContext_other different]
        cases state.clients actor with
        | none => rfl
        | some client => exact withContext_settle_other different _

private theorem run_withContext
    (known : (run earlier).clients id = some (.posting posting (.running phase)))
    (late : phase.isEnding = true) (later : List Action) :
    later.foldl State.perform ((run earlier).withContext id context) =
      (run (earlier ++ later)).withContext id context ∧
      ∃ course : Course (Posting.Phase UnitId Progress) Posting.Result,
        (run (earlier ++ later)).clients id = some (.posting posting course) ∧
          course.isClosing = true := by
  induction later using List.reverseRecOn with
  | nil =>
      rw [List.append_nil]
      exact ⟨rfl, _, known, late⟩
  | append_singleton later action ih =>
      obtain ⟨same, course, now, closing⟩ := ih
      rw [List.foldl_append, same, run_append_concat]
      exact perform_withContext (owned_run _) now closing action

/-- A posting that is interrupted before it has begun to end its unit halts. If it has begun to end
its unit, whatever happens from then on happens in the same way with any other bounds. -/
theorem interrupted_postings_stop (earlier later : List Action) (id : ClientId) (posting : Posting)
    (phase : Posting.Phase UnitId Progress)
    (known : (run earlier).clients id = some (.posting posting (.running phase))) :
    (phase.isEnding = false → posting.context.interruption (run earlier).world ≠ none →
      Halts earlier later id posting phase) ∧
      (phase.isEnding = true →
        ∀ context, later.foldl State.perform ((run earlier).withContext id context) =
        (run (earlier ++ later)).withContext id context) :=
  ⟨fun early interrupted => halts_of_interrupted known early interrupted later,
    fun late _ => (run_withContext known late later).1⟩

/-!
## A credit that is cancelled
-/

def sampleCancellable : Posting := { sampleMovement .credit with context := ⟨.never, some ⟨1⟩⟩ }

/-- A credit takes some steps, and is cancelled. -/
def sampleCancelled (steps : Nat) : List Action :=
  [.inquire (.create sampleRegistration .never)] ++ List.replicate 3 (.proceed ⟨1⟩) ++
    [.post sampleCancellable] ++ List.replicate steps (.proceed ⟨2⟩) ++ [.cancel ⟨1⟩]

theorem interrupted_postings_stop_sample :
    (run (sampleCancelled 2 ++ [.proceed ⟨2⟩])).clients ⟨2⟩ =
        some (.posting sampleCancellable (.ended (.error (.cancelled .validated)))) ∧
      TookNoEffect (sampleCancelled 2 ++ [.proceed ⟨2⟩]) ⟨2⟩ ∧
      [.proceed ⟨2⟩].foldl State.perform ((run (sampleCancelled 4)).withContext ⟨2⟩ .unbounded) =
        (run (sampleCancelled 4 ++ [.proceed ⟨2⟩])).withContext ⟨2⟩ .unbounded ∧
      (run (sampleCancelled 4 ++ [.proceed ⟨2⟩])).memory.entries.length = 1 := by
  have early :=
    (interrupted_postings_stop (sampleCancelled 2) [.proceed ⟨2⟩] ⟨2⟩ sampleCancellable _ rfl).1 rfl
      (by decide)
  have late :=
    (interrupted_postings_stop (sampleCancelled 4) [.proceed ⟨2⟩] ⟨2⟩ sampleCancellable _ rfl).2 rfl
      .unbounded
  exact ⟨rfl, early.unseen, late, by decide +kernel⟩

end Shared

end Passbook
