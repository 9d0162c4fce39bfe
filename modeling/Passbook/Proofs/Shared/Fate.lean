import Mathlib.Data.List.Induction
import Passbook.Proofs.Shared.Ownership

/-!
What an action makes of one client. Either the client takes a step of its own, or its caller tells
it what to do, or something happens that is out of its sight: an effect on the ledger that leaves
its unit of work alone.
-/

set_option autoImplicit false

namespace Passbook.Shared

open Memory (Progress Rearmed)

/-- What an action makes of a client and of the ledger around it. -/
inductive Fate (state : State) (id : ClientId) (client : Client) : Action → State → Prop
  | spared {action : Action} {after : State} {one two : Option UnitId}
      (same : after.clients id = some client) (effect : Effect state.memory one two after.memory)
      (apart : ∀ unit, client.unit? = some unit → one ≠ some unit ∧ two ≠ some unit)
      (owner : ∀ unit, one = some unit → ∃ other actor, state.clients other = some actor ∧
        actor.unit? = some unit) :
      Fate state id client action after
  | proceeds {after : State} (now : after.clients id = some (client.proceed state.world).1)
      (world : after.world = (client.proceed state.world).2) :
      Fate state id client (.proceed id) after
  | givesUp {after : State} (now : after.clients id = some (client.giveUp state.world).1)
      (world : after.world = (client.giveUp state.world).2) :
      Fate state id client (.giveUp id) after
  | asks {unit : UnitId} {last : Option ((request : Request) × Except StoreError request.Reply)}
      {request : Request} {after : State} (idle : client = .hand (.running (.idle unit last)))
      (now : after.clients id = some (.hand (.running (.asking unit request .fresh))))
      (world : after.world = state.world) :
      Fate state id client (.ask id request) after
  | finishes {unit : UnitId} {last : Option ((request : Request) × Except StoreError request.Reply)}
      {ending : Ending} {after : State} (idle : client = .hand (.running (.idle unit last)))
      (now : after.clients id = some (.hand (.running (.finishing unit ending .fresh))))
      (world : after.world = state.world) : Fate state id client (.finish id ending) after

variable {state after : State} {id : ClientId} {client : Client} {action : Action}

private theorem fate_quiet (known : state.clients id = some client)
    (rearmed : Rearmed state.memory after.memory) (clients : after.clients id = state.clients id) :
    Fate state id client action after :=
  .spared (clients.trans known) (.idles rearmed) (fun _ _ => ⟨by simp, by simp⟩)
    fun _ same => by cases same

private theorem fate_others (owned : state.Owned) (known : state.clients id = some client)
    {actor : ClientId} {other : Client} (present : state.clients actor = some other)
    (different : id ≠ actor) (next : Client)
    (effect : Effect state.memory other.unit? next.unit? after.memory)
    (clients : after.clients id = state.clients id) :
    Fate state id client action after :=
  .spared (clients.trans known) effect
    (fun unit has =>
      owned.apart present effect different (by simpa [State.unitOf, known] using has))
    fun _ has => ⟨actor, other, present, has⟩

private theorem fate_direct (known : state.clients id = some client) (actor : ClientId)
    (task : UnitId → Hand)
    (told : ∀ {unit last} {after : State}, id = actor →
      client = .hand (.running (.idle unit last)) →
      after.clients id = some (.hand (.running (task unit))) → after.world = state.world →
      Fate state id client action after) :
    Fate state id client action (state.direct actor task) := by
  rcases State.direct_cases state actor task with same | ⟨unit, last, idle, done⟩
  · rw [same]
    exact fate_quiet known (.refl _) rfl
  · rw [done]
    by_cases mine : id = actor
    · subst mine
      exact told rfl (Option.some.inj (known.symm.trans idle)) (assign_same _ _ _) rfl
    · exact fate_quiet known (.refl _) (assign_other _ _ mine)

/-- A client that was not there is not there, or has arrived and not begun. -/
theorem perform_absent (absent : state.clients id = none) (action : Action) :
    (state.perform action).clients id = none ∨
      (∃ posting, (state.perform action).clients id =
        some (.posting posting (.running (.opening .fresh)))) ∨
      (∃ inquiry, (state.perform action).clients id =
        some (.inquiry inquiry (.running (.opening .fresh)))) ∨
      ∃ deadline, (state.perform action).clients id =
        some (.hand (.running (.opening deadline .fresh))) := by
  have welcomed : ∀ another,
      (state.welcome another).clients id = none ∨
        (state.welcome another).clients id = some another := by
    intro another
    by_cases same : id = ⟨state.lastClient + 1⟩
    · exact .inr (by simp [State.welcome, same])
    · exact .inl (by simpa [State.welcome, assign_other _ _ same] using absent)
  have directed : ∀ actor task, (state.direct actor task).clients id = none := by
    intro actor task
    rcases State.direct_cases state actor task with same | ⟨unit, last, idle, done⟩
    · rwa [same]
    · have different : id ≠ actor := fun same => by
        rw [same, idle] at absent
        cases absent
      rw [done]
      exact (assign_other _ _ different).trans absent
  have settled : ∀ actor other done, state.clients actor = some other →
      (state.settle actor done).clients id = none := by
    intro actor other done present
    have different : id ≠ actor := fun same => by
      rw [same, present] at absent
      cases absent
    exact (assign_other _ _ different).trans absent
  cases action with
  | wait milliseconds => exact .inl absent
  | cancel token => exact .inl absent
  | failNext point => exact .inl absent
  | delayNext point milliseconds => exact .inl absent
  | post posting => exact (welcomed _).imp_right fun arrived => .inl ⟨posting, arrived⟩
  | inquire inquiry => exact (welcomed _).imp_right fun arrived => .inr (.inl ⟨inquiry, arrived⟩)
  | openUnit deadline => exact (welcomed _).imp_right fun arrived => .inr (.inr ⟨deadline, arrived⟩)
  | ask actor request => exact .inl (directed actor _)
  | finish actor ending => exact .inl (directed actor _)
  | proceed actor =>
      cases present : state.clients actor with
      | none => exact .inl (by simpa only [State.perform, present] using absent)
      | some other =>
          have still := settled actor other (other.proceed state.world) present
          exact .inl (by simpa only [State.perform, present] using still)
  | giveUp actor =>
      cases present : state.clients actor with
      | none => exact .inl (by simpa only [State.perform, present] using absent)
      | some other =>
          have still := settled actor other (other.giveUp state.world) present
          exact .inl (by simpa only [State.perform, present] using still)

theorem perform_fate (owned : state.Owned) (known : state.clients id = some client)
    (action : Action) :
    Fate state id client action (state.perform action) := by
  have welcomed : ∀ another, Fate state id client action (state.welcome another) := fun another =>
    fate_quiet known (.refl _) ((owned.clients_welcome known another).trans known.symm)
  cases action with
  | wait milliseconds => exact fate_quiet known (.refl _) rfl
  | cancel token => exact fate_quiet known (.refl _) rfl
  | failNext point => exact fate_quiet known ⟨_, state.memory.delays, rfl⟩ rfl
  | delayNext point milliseconds => exact fate_quiet known ⟨state.memory.faults, _, rfl⟩ rfl
  | post posting => exact welcomed _
  | inquire inquiry => exact welcomed _
  | openUnit deadline => exact welcomed _
  | ask actor request =>
      exact fate_direct known actor _ fun mine idle now world => by
        subst mine
        exact .asks idle now world
  | finish actor ending =>
      exact fate_direct known actor _ fun mine idle now world => by
        subst mine
        exact .finishes idle now world
  | proceed actor =>
      cases present : state.clients actor with
      | none =>
          exact fate_quiet known (by simp only [State.perform, present]; exact .refl _)
            (by simp only [State.perform, present])
      | some other =>
          by_cases mine : id = actor
          · subst mine
            obtain rfl := Option.some.inj (known.symm.trans present)
            obtain ⟨world, now⟩ := State.perform_proceed known
            exact .proceeds now world
          · refine fate_others owned known present mine (other.proceed state.world).1 ?_ ?_
            · simp only [State.perform, present]
              exact client_effect other state.world
            · simp only [State.perform, present, State.settle]
              exact assign_other _ _ mine
  | giveUp actor =>
      cases present : state.clients actor with
      | none =>
          exact fate_quiet known (by simp only [State.perform, present]; exact .refl _)
            (by simp only [State.perform, present])
      | some other =>
          by_cases mine : id = actor
          · subst mine
            obtain rfl := Option.some.inj (known.symm.trans present)
            obtain ⟨world, now⟩ := State.perform_giveUp known
            exact .givesUp now world
          · refine fate_others owned known present mine (other.giveUp state.world).1 ?_ ?_
            · simp only [State.perform, present]
              exact client_giveUp_effect other state.world
            · simp only [State.perform, present, State.settle]
              exact assign_other _ _ mine

/-- What holds of a client when it arrives, and after whatever becomes of it, holds of it in every
run. -/
theorem client_run {motive : List Action → Client → Prop}
    (posts : ∀ actions posting, motive actions (.posting posting (.running (.opening .fresh))))
    (inquires : ∀ actions inquiry, motive actions (.inquiry inquiry (.running (.opening .fresh))))
    (opens : ∀ actions deadline, motive actions (.hand (.running (.opening deadline .fresh))))
    (keeps : ∀ actions action client next, (run actions).clients id = some client →
      motive actions client → Fate (run actions) id client action (run (actions ++ [action])) →
      (run (actions ++ [action])).clients id = some next → motive (actions ++ [action]) next)
    {actions : List Action} (known : (run actions).clients id = some client) :
    motive actions client := by
  induction actions using List.reverseRecOn generalizing client with
  | nil => cases known
  | append_singleton actions action ih =>
      have next : run (actions ++ [action]) = (run actions).perform action :=
        run_append actions [action]
      cases before : (run actions).clients id with
      | none =>
          rw [next] at known
          rcases perform_absent before action
            with absent | ⟨posting, arrived⟩ | ⟨inquiry, arrived⟩ | ⟨deadline, arrived⟩
          · cases absent.symm.trans known
          · cases arrived.symm.trans known
            exact posts _ posting
          · cases arrived.symm.trans known
            exact inquires _ inquiry
          · cases arrived.symm.trans known
            exact opens _ deadline
      | some earlier =>
          have fate := perform_fate (owned_run actions) before action
          rw [← next] at fate
          exact keeps actions action earlier client before (ih before) fate known

end Passbook.Shared
