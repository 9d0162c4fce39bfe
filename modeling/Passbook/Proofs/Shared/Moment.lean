import Passbook.Proofs.Calls.Traced
import Passbook.Proofs.Shared.Ownership

/-!
The clock and the tokens of a shared ledger. No step of a client moves the clock or uses a token.
Time and callers do, but the clock does not go back and a used token stays used, so that an
interruption once observed is observed ever after.
-/

set_option autoImplicit false

namespace Passbook

open Calls (moment)

namespace Memory

variable {α : Type}

theorem moment_enter (point : FaultPoint) (progress : Progress) (world : World Memory) :
    moment (enter point progress world).2 = moment world := by
  have begins : moment (begun point progress world) = moment world := by cases progress <;> rfl
  rw [enter_eq]
  split
  · unfold checkFault
    split <;> exact begins
  · exact begins

theorem moment_afterEntering {point : FaultPoint} {progress : Progress} {world : World Memory}
    {next : World Memory → Attempt α}
    (goesOn : ∀ entered, moment (next entered).2 = moment entered) :
    moment (afterEntering point progress world next).2 = moment world := by
  have entered := moment_enter point progress world
  unfold afterEntering
  generalize enter point progress world = attempt at entered
  rcases attempt with ⟨waiting | error | passed, left⟩
  · exact entered
  · exact entered
  · exact (goesOn left).trans entered

theorem moment_afterLocking {unit : UnitId} {id : AccountId} {deadline : Deadline}
    {world : World Memory} {next : World Memory → Attempt α}
    (goesOn : ∀ locked, moment (next locked).2 = moment locked) :
    moment (afterLocking unit id deadline world next).2 = moment world := by
  unfold afterLocking
  dsimp only
  split
  · exact goesOn _
  · split <;> rfl

theorem moment_tryOpenBy (deadline : Deadline) (progress : Progress) (world : World Memory) :
    moment (store.tryOpenBy deadline progress world).2 = moment world := by
  have opened : moment (store.tryOpen progress world).2 = moment world :=
    moment_afterEntering fun _ => rfl
  unfold LedgerStore.tryOpenBy
  generalize store.tryOpen progress world = attempt at opened
  rcases attempt with ⟨waiting | result, left⟩
  · dsimp only
    split <;> exact opened
  · exact opened

theorem moment_tryAsk (unit : UnitId) (request : Request) (progress : Progress)
    (world : World Memory) :
    moment (tryAsk unit request progress world).2 = moment world := by
  have sets : ∀ id balance (entered : World Memory), moment (trySetHeld unit id balance entered).2 =
      moment entered := by
    intro id balance entered
    refine moment_afterLocking fun locked => ?_
    split <;> rfl
  cases request with
  | lock id deadline =>
      refine moment_afterLocking fun locked => ?_
      split <;> rfl
  | find id => rfl
  | findName username => rfl
  | list id => rfl
  | insert registration =>
      simp only [tryAsk, tryInsert]
      split <;> rfl
  | setBalance id balance =>
      change moment (trySetBalance unit id balance progress world).2 = moment world
      rcases trySetBalance_cases progress with ⟨_, _, held⟩ | ⟨_, checked⟩
      · rw [held]
        exact sets id balance world
      · rw [checked]
        refine moment_afterEntering fun entered => ?_
        unfold trySetChecked
        split
        · rfl
        · exact sets id balance entered
  | append draft =>
      refine moment_afterEntering fun entered => ?_
      dsimp only
      split <;> rfl

theorem moment_tryFinish (unit : UnitId) (ending : Ending) (progress : Progress)
    (world : World Memory) :
    moment (tryFinish unit ending progress world).2 = moment world := by
  cases ending with
  | commit =>
      have entered := moment_enter .commit progress world
      simp only [tryFinish, tryCommit]
      generalize enter .commit progress world = attempt at entered
      rcases attempt with ⟨waiting | error | passed, left⟩
      · exact entered
      · exact entered
      · dsimp only
        split <;> exact entered
  | rollback =>
      have entered := moment_enter .rollback progress world
      simp only [tryFinish, tryRollback]
      generalize enter .rollback progress world = attempt at entered
      rcases attempt with ⟨waiting | result, left⟩ <;> exact entered

theorem moment_withdraw (unit : UnitId) (request : Request) (progress : Progress)
    (world : World Memory) :
    moment (withdraw unit request progress world) = moment world := by
  unfold withdraw
  split <;> rfl

end Memory

namespace Posting

open Memory (Progress)

theorem moment_abort (unit : UnitId) (cause : PostingError) (world : World Memory) :
    moment (abort Memory.store unit cause world).2 = moment world := by
  unfold abort
  split <;> rfl

theorem moment_guarded {α : Type} {posting : Posting} {stage : Stage}
    {leave : World Memory → World Memory}
    {call : World Memory → Poll Progress (Except StoreError α) × World Memory}
    {world : World Memory} (leaves : moment (leave world) = moment world)
    (calls : moment (call world).2 = moment world) :
    moment (posting.guarded stage leave call world).2 = moment world := by
  unfold guarded
  split
  · exact leaves
  · generalize call world = attempt at calls
    rcases attempt with ⟨waiting | result, left⟩ <;> exact calls

theorem moment_guardedAsk (posting : Posting) (stage : Stage) (unit : UnitId) (request : Request)
    (progress : Progress) (world : World Memory) :
    moment (guardedAsk Memory.store posting stage unit request progress world).2 = moment world :=
  moment_guarded (Memory.moment_withdraw unit request progress world)
    (Memory.moment_tryAsk unit request progress world)

theorem moment_step (posting : Posting) (phase : Phase UnitId Progress) (world : World Memory) :
    moment (posting.step Memory.store phase world).2 = moment world := by
  cases phase with
  | opening progress =>
      have tried :
        moment (posting.guarded .idle id (Memory.store.tryOpenBy posting.context.deadline progress)
          world).2 =
        moment world := moment_guarded rfl (Memory.moment_tryOpenBy _ progress world)
      simp only [step]
      generalize posting.guarded .idle id (Memory.store.tryOpenBy posting.context.deadline progress)
        world = attempt at tried
      rcases attempt with ⟨waiting | error | unit, left⟩ <;> exact tried
  | locking unit progress =>
      have tried := moment_guardedAsk posting .idle unit posting.lockRequest progress world
      simp only [step]
      generalize guardedAsk Memory.store posting .idle unit posting.lockRequest progress world =
        attempt at tried
      rcases attempt with ⟨waiting | error | _ | account, left⟩
      · exact tried
      · exact (moment_abort unit error left).trans tried
      · exact (moment_abort unit _ left).trans tried
      · dsimp only
        unfold judge
        split
        · exact tried
        · exact (moment_abort unit _ _).trans tried
  | writing unit balance progress =>
      have tried :=
        moment_guardedAsk posting .validated unit (posting.balanceRequest balance) progress world
      simp only [step]
      generalize guardedAsk Memory.store posting .validated unit (posting.balanceRequest balance)
        progress world = attempt at tried
      rcases attempt with ⟨waiting | error | written, left⟩
      · exact tried
      · exact (moment_abort unit error left).trans tried
      · exact tried
  | appending unit balance progress =>
      have tried := moment_guardedAsk posting .mutated unit posting.entryRequest progress world
      simp only [step]
      generalize guardedAsk Memory.store posting .mutated unit posting.entryRequest progress world =
        attempt at tried
      rcases attempt with ⟨waiting | error | entry, left⟩
      · exact tried
      · exact (moment_abort unit error left).trans tried
      · dsimp only
        unfold decideCommit
        split
        · exact (moment_abort unit _ left).trans tried
        · exact tried
  | committing unit receipt progress =>
      have tried : moment (Memory.store.tryFinish unit .commit progress world).2 = moment world :=
        Memory.moment_tryFinish unit .commit progress world
      simp only [step]
      generalize Memory.store.tryFinish unit .commit progress world = attempt at tried
      rcases attempt with ⟨waiting | error | done, left⟩ <;> exact tried
  | undoing unit cause progress =>
      have tried : moment (Memory.store.tryFinish unit .rollback progress world).2 = moment world :=
        Memory.moment_tryFinish unit .rollback progress world
      simp only [step]
      generalize Memory.store.tryFinish unit .rollback progress world = attempt at tried
      rcases attempt with ⟨waiting | error | done, left⟩ <;> exact tried

theorem moment_giveUp (posting : Posting) (phase : Phase UnitId Progress) (world : World Memory) :
    moment (giveUp Memory.store posting phase world) = moment world := by
  cases phase with
  | opening progress => rfl
  | locking unit progress => exact Memory.moment_withdraw unit posting.lockRequest progress world
  | writing unit balance progress =>
      exact Memory.moment_withdraw unit (posting.balanceRequest balance) progress world
  | appending unit balance progress =>
      exact Memory.moment_withdraw unit posting.entryRequest progress world
  | committing unit receipt progress => rfl
  | undoing unit cause progress => rfl

end Posting

namespace Query

open Memory (Progress)

variable {α : Type}

theorem moment_finish (query : Query α) (result : Result α) (world : World Memory) :
    moment (query.finish (υ := UnitId) (π := Progress) result world).2 = moment world := by
  cases result with
  | ok answer => rfl
  | error error =>
      simp only [finish]
      split <;> rfl

theorem moment_step (query : Query α) (phase : Phase UnitId Progress α) (world : World Memory) :
    moment (query.step Memory.store phase world).2 = moment world := by
  cases phase with
  | opening progress =>
      have tried := Memory.moment_tryOpenBy query.deadline progress world
      simp only [step]
      generalize Memory.store.tryOpenBy query.deadline progress world = attempt at tried
      rcases attempt with ⟨waiting | error | unit, left⟩
      · exact tried
      · exact (query.moment_finish _ left).trans tried
      · exact tried
  | asking unit request next progress =>
      have tried : moment (Memory.store.tryAsk unit request progress world).2 = moment world :=
        Memory.moment_tryAsk unit request progress world
      simp only [step]
      generalize Memory.store.tryAsk unit request progress world = attempt at tried
      rcases attempt with ⟨waiting | error | reply, left⟩ <;> exact tried
  | committing unit answer progress =>
      have tried : moment (Memory.store.tryFinish unit .commit progress world).2 = moment world :=
        Memory.moment_tryFinish unit .commit progress world
      simp only [step]
      generalize Memory.store.tryFinish unit .commit progress world = attempt at tried
      rcases attempt with ⟨waiting | error | done, left⟩
      · exact tried
      · exact (query.moment_finish _ left).trans tried
      · exact (query.moment_finish _ left).trans tried
  | undoing unit cause progress =>
      have tried : moment (Memory.store.tryFinish unit .rollback progress world).2 = moment world :=
        Memory.moment_tryFinish unit .rollback progress world
      simp only [step]
      generalize Memory.store.tryFinish unit .rollback progress world = attempt at tried
      rcases attempt with ⟨waiting | error | done, left⟩
      · exact tried
      · exact (query.moment_finish _ _).trans tried
      · exact (query.moment_finish _ left).trans tried

theorem moment_giveUp (phase : Phase UnitId Progress α) (world : World Memory) :
    moment (giveUp Memory.store phase world) = moment world := by
  cases phase with
  | opening progress => rfl
  | asking unit request next progress => exact Memory.moment_withdraw unit request progress world
  | committing unit answer progress => rfl
  | undoing unit cause progress => rfl

end Query

namespace Shared

open Memory (Progress)

theorem Hand.moment_step (hand : Hand) (world : World Memory) :
    moment (hand.step world).2 = moment world := by
  cases hand with
  | opening deadline progress =>
      have tried := Memory.moment_tryOpenBy deadline progress world
      simp only [step]
      generalize Memory.store.tryOpenBy deadline progress world = attempt at tried
      rcases attempt with ⟨waiting | error | unit, left⟩ <;> exact tried
  | idle unit last => rfl
  | asking unit request progress =>
      have tried : moment (Memory.store.tryAsk unit request progress world).2 = moment world :=
        Memory.moment_tryAsk unit request progress world
      simp only [step]
      generalize Memory.store.tryAsk unit request progress world = attempt at tried
      rcases attempt with ⟨waiting | reply, left⟩ <;> exact tried
  | finishing unit ending progress =>
      have tried : moment (Memory.store.tryFinish unit ending progress world).2 = moment world :=
        Memory.moment_tryFinish unit ending progress world
      simp only [step]
      generalize Memory.store.tryFinish unit ending progress world = attempt at tried
      rcases attempt with ⟨waiting | result, left⟩ <;> exact tried

theorem Hand.moment_giveUp (hand : Hand) (world : World Memory) :
    moment (hand.giveUp world).2 = moment world := by
  cases hand with
  | asking unit request progress => exact Memory.moment_withdraw unit request progress world
  | _ => rfl

theorem Client.moment_proceed (client : Client) (world : World Memory) :
    moment (client.proceed world).2 = moment world := by
  cases client using Client.running_or_over with
  | posting wanted phase => exact wanted.moment_step phase world
  | inquiry asked phase => exact asked.query.moment_step phase world
  | hand task => exact task.moment_step world
  | settled client isOver => rw [Client.proceed_of_isOver isOver]

theorem Client.moment_giveUp (client : Client) (world : World Memory) :
    moment (client.giveUp world).2 = moment world := by
  cases client using Client.running_or_over with
  | posting wanted phase => exact wanted.moment_giveUp phase world
  | inquiry asked phase => exact Query.moment_giveUp phase world
  | hand task => exact task.moment_giveUp world
  | settled client isOver => rw [Client.giveUp_of_isOver isOver]

/-!
## Interruptions
-/

variable {context : CallContext} {state : State}

theorem interruption_congr {world after : World Memory} (same : moment after = moment world) :
    context.interruption after = context.interruption world := by
  rw [← Calls.interruption_moment, same, Calls.interruption_moment]

/-- Whatever happens, an interrupted call stays interrupted. -/
theorem interrupted_perform (interrupted : context.interruption state.world ≠ none)
    (action : Action) :
    context.interruption (state.perform action).world ≠ none := by
  have still : ∀ after : State, moment after.world = moment state.world →
      context.interruption after.world ≠ none := by
    intro after same
    rwa [interruption_congr same]
  cases action with
  | wait milliseconds =>
      exact CallContext.interrupted_later (Nat.le_add_right _ milliseconds)
        (fun _ used => used) interrupted
  | cancel token =>
      refine CallContext.interrupted_later (Nat.le_refl state.world.now) ?_ interrupted
      intro other used
      simp only [World.isCancelled, List.contains_iff_mem] at used ⊢
      exact List.mem_cons_of_mem token used
  | failNext point => exact still _ rfl
  | delayNext point milliseconds => exact still _ rfl
  | post posting => exact still _ rfl
  | inquire inquiry => exact still _ rfl
  | openUnit deadline => exact still _ rfl
  | ask id request =>
      rcases State.direct_cases state id fun unit => .asking unit request Memory.store.fresh
        with same | ⟨unit, last, known, done⟩
      · exact still _ (by rw [State.perform, same])
      · exact still _ (by rw [State.perform, done])
  | finish id ending =>
      rcases State.direct_cases state id fun unit => .finishing unit ending Memory.store.fresh
        with same | ⟨unit, last, known, done⟩
      · exact still _ (by rw [State.perform, same])
      · exact still _ (by rw [State.perform, done])
  | proceed id =>
      cases known : state.clients id with
      | none => exact still _ (by simp only [State.perform, known])
      | some client =>
          refine still _ ?_
          simp only [State.perform, known, State.settle]
          exact client.moment_proceed state.world
  | giveUp id =>
      cases known : state.clients id with
      | none => exact still _ (by simp only [State.perform, known])
      | some client =>
          refine still _ ?_
          simp only [State.perform, known, State.settle]
          exact client.moment_giveUp state.world

theorem interrupted_onwards {actions : List Action}
    (interrupted : context.interruption (run actions).world ≠ none) (later : List Action) :
    context.interruption (run (actions ++ later)).world ≠ none := by
  refine perform_onwards (fun state => context.interruption state.world ≠ none) interrupted ?_ later
  exact fun _ _ interrupted action => interrupted_perform interrupted action

end Shared

end Passbook
