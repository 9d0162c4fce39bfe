import Passbook.Proofs.Shared.Ownership

/-!
Properties of single clients. A property that a client keeps by its own steps, and that no step of
another client can break, holds of every client after every run.
-/

set_option autoImplicit false

namespace Passbook.Shared

open Memory (Progress Rearmed)

/-- A property of a client and the ledger that the steps of the client keep, and that the steps of
other clients cannot break. -/
structure Invariant (allowed : Request → Prop) (fits : Memory → Client → Prop) : Prop where
  rearms : ∀ {memory after : Memory} {client : Client}, Rearmed memory after →
    fits memory client → fits after client
  posts : ∀ memory posting, fits memory (.posting posting (.running (.opening .fresh)))
  inquires : ∀ memory inquiry, fits memory (.inquiry inquiry (.running (.opening .fresh)))
  opens : ∀ memory deadline, fits memory (.hand (.running (.opening deadline .fresh)))
  asks : ∀ {memory : Memory} {unit : UnitId}
    {last : Option ((request : Request) × Except StoreError request.Reply)} {request : Request},
    allowed request → fits memory (.hand (.running (.idle unit last))) →
    fits memory (.hand (.running (.asking unit request .fresh)))
  finishes : ∀ {memory : Memory} {unit : UnitId}
    {last : Option ((request : Request) × Except StoreError request.Reply)} {ending : Ending},
    fits memory (.hand (.running (.idle unit last))) →
    fits memory (.hand (.running (.finishing unit ending .fresh)))
  proceeds : ∀ client world, fits world.store client →
    fits (client.proceed world).2.store (client.proceed world).1
  givesUp : ∀ client world, fits world.store client →
    fits (client.giveUp world).2.store (client.giveUp world).1
  others : ∀ {memory after : Memory} {client other next : Client}, fits memory client →
    fits memory other →
    Effect memory other.unit? next.unit? after →
    (∀ unit, client.unit? = some unit → other.unit? ≠ some unit ∧ next.unit? ≠ some unit) →
      fits after client

namespace Invariant

variable {allowed : Request → Prop} {fits : Memory → Client → Prop} {state after : State}

def Everywhere (fits : Memory → Client → Prop) (state : State) : Prop :=
  ∀ id client, state.clients id = some client → fits state.memory client

private theorem step (invariant : Invariant allowed fits) (owned : state.Owned)
    (holds : Everywhere fits state) {id : ClientId} {client next : Client}
    (known : state.clients id = some client)
    (effect : Effect state.memory client.unit? next.unit? after.memory)
    (clients : after.clients = assign state.clients id (some next))
    (kept : fits after.memory next) :
    Everywhere fits after := by
  intro other present knows
  by_cases same : other = id
  · rw [same, clients, assign_same] at knows
    exact Option.some.inj knows ▸ kept
  · rw [clients, assign_other _ _ same] at knows
    refine invariant.others (holds other present knows) (holds id client known)
      effect fun unit has => ?_
    exact owned.apart known effect same (by simp [State.unitOf, knows, has])

private theorem welcome (holds : Everywhere fits state) {client : Client}
    (fresh : fits state.memory client) :
    Everywhere fits (state.welcome client) := by
  intro other present knows
  by_cases same : other = ⟨state.lastClient + 1⟩
  · simp only [State.welcome, same, assign_same] at knows
    exact Option.some.inj knows ▸ fresh
  · simp only [State.welcome, assign_other _ _ same] at knows
    exact holds other present knows

theorem transition (invariant : Invariant allowed fits) (owned : state.Owned)
    (holds : Everywhere fits state) (transition : State.Transition allowed state after) :
    Everywhere fits after := by
  cases transition with
  | quiet rearmed clients count grants =>
      intro other present knows
      rw [clients] at knows
      exact invariant.rearms rearmed (holds other present knows)
  | posts posting => exact welcome holds (invariant.posts _ posting)
  | inquires inquiry => exact welcome holds (invariant.inquires _ inquiry)
  | opens deadline => exact welcome holds (invariant.opens _ deadline)
  | proceeds known =>
      exact invariant.step owned holds known (client_effect _ state.world) rfl
        (invariant.proceeds _ state.world (holds _ _ known))
  | givesUp known =>
      exact invariant.step owned holds known (client_giveUp_effect _ state.world) rfl
        (invariant.givesUp _ state.world (holds _ _ known))
  | asks known isAllowed =>
      exact invariant.step owned holds known (.acts .refl) rfl
        (invariant.asks isAllowed (holds _ _ known))
  | finishes known =>
      exact invariant.step owned holds known (.acts .refl) rfl
        (invariant.finishes (holds _ _ known))

theorem run (invariant : Invariant allowed fits) {actions : List Action}
    (asked : Asks allowed actions) :
    Everywhere fits (Shared.run actions) := by
  rw [← List.nil_append actions]
  refine run_onwards (Everywhere fits) asked (fun id client knows => by cases knows) ?_
  exact fun state after owned holds transition => invariant.transition owned holds transition

end Invariant

end Passbook.Shared
