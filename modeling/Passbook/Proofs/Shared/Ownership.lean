import Passbook.Proofs.Shared.Effect

/-!
Who owns the units of work of a shared ledger. Every open unit belongs to one running client, a
client that is over owns none, and no unit is opened twice. Whatever the clients ask of their units,
the ledger stays sound.
-/

set_option autoImplicit false

namespace Passbook.Shared

open Memory (Progress Rearmed Sound)

namespace State

/-- The unit of work that a client has. -/
def unitOf (state : State) (id : ClientId) : Option UnitId := (state.clients id).bind Client.unit?

/-- Every open unit has one owner, among the clients that have arrived. -/
structure Owned (state : State) : Prop where
  sound : Sound state.memory
  isOpen : ∀ id unit, state.unitOf id = some unit → state.memory.units unit ≠ none
  alone : ∀ one other unit, state.unitOf one = some unit →
    state.unitOf other = some unit → one = other
  owner : ∀ unit, state.memory.units unit ≠ none → ∃ id, state.unitOf id = some unit
  arrived : ∀ id, state.clients id ≠ none → id.number ≤ state.lastClient

variable {state after : State} {id : ClientId}

theorem owned_start : Owned .start where
  sound := Memory.sound_empty
  isOpen id unit has := by simp [unitOf, start] at has
  alone one other unit has := by simp [unitOf, start] at has
  owner unit isOpen := absurd rfl isOpen
  arrived id has := absurd rfl has

theorem Owned.isOpen_of_known (owned : state.Owned) {client : Client}
    (known : state.clients id = some client) :
    ∀ unit, client.unit? = some unit → state.memory.units unit ≠ none :=
  fun unit has => owned.isOpen id unit (by simpa [unitOf, known] using has)

theorem Owned.next_clients (owned : state.Owned) : state.clients ⟨state.lastClient + 1⟩ = none := by
  cases known : state.clients ⟨state.lastClient + 1⟩ with
  | none => rfl
  | some client => exact absurd (owned.arrived _ (by simp [known])) (Nat.not_succ_le_self _)

theorem Owned.clients_welcome (owned : state.Owned) {client : Client}
    (known : state.clients id = some client) (another : Client) :
    (state.welcome another).clients id = some client := by
  have old : id ≠ ⟨state.lastClient + 1⟩ := by
    intro same
    rw [same, owned.next_clients] at known
    cases known
  exact (assign_other _ _ old).trans known

theorem Owned.unitOf_welcome (owned : state.Owned) {unit : UnitId}
    (has : state.unitOf id = some unit) (another : Client) :
    (state.welcome another).unitOf id = some unit := by
  cases known : state.clients id with
  | none => simp [unitOf, known] at has
  | some client =>
      rw [unitOf, owned.clients_welcome known another, ← known]
      exact has

/-- A change that leaves the clients and all but the orders of the ledger as they are. -/
theorem Owned.quiet (owned : Owned state) (rearmed : Rearmed state.memory after.memory)
    (clients : after.clients = state.clients) (count : after.lastClient = state.lastClient) :
    Owned after where
  sound := owned.sound.rearmed rearmed
  isOpen id unit has := by
    rw [rearmed.units]
    exact owned.isOpen id unit (by simpa only [unitOf, clients] using has)
  alone one other unit first second :=
    owned.alone one other unit (by simpa only [unitOf, clients] using first)
      (by simpa only [unitOf, clients] using second)
  owner unit isOpen := by
    rw [rearmed.units] at isOpen
    simpa only [unitOf, clients] using owned.owner unit isOpen
  arrived id has := by
    rw [count]
    exact owned.arrived id (by simpa only [clients] using has)

theorem Owned.apart (owned : Owned state) {client next : Client} {memory : Memory}
    (known : state.clients id = some client)
    (effect : Effect state.memory client.unit? next.unit? memory) {other : ClientId} {unit : UnitId}
    (different : other ≠ id) (has : state.unitOf other = some unit) :
    client.unit? ≠ some unit ∧ next.unit? ≠ some unit := by
  have mine : state.unitOf id = client.unit? := by simp [unitOf, known]
  have before : client.unit? ≠ some unit :=
    fun same => different (owned.alone other id unit has (mine.trans same))
  refine ⟨before, fun same => ?_⟩
  cases unitBefore : client.unit? with
  | none =>
      rw [unitBefore, same] at effect
      exact owned.isOpen other unit has (effect.isNew owned.sound)
  | some old =>
      rw [unitBefore] at effect before
      rcases effect.keeps with kept | gone
      · exact before (kept.symm.trans same)
      · simp [gone] at same

theorem Owned.step (owned : Owned state) {client next : Client}
    (known : state.clients id = some client)
    (effect : Effect state.memory client.unit? next.unit? after.memory)
    (clients : after.clients = assign state.clients id (some next))
    (count : after.lastClient = state.lastClient) :
    Owned after := by
  have mine : state.unitOf id = client.unit? := by simp [unitOf, known]
  have now : after.unitOf id = next.unit? := by simp [unitOf, clients]
  have others : ∀ other, other ≠ id → after.unitOf other = state.unitOf other := by
    intro other different
    simp only [unitOf, clients, assign_other _ _ different]
  refine ⟨effect.sound owned.sound fun unit has => owned.isOpen id unit (mine.trans has), ?_,
    ?_, ?_, ?_⟩
  · intro other unit has
    by_cases same : other = id
    · rw [same, now] at has
      exact effect.isOpen (fun unit has => owned.isOpen id unit (mine.trans has)) unit has
    · rw [others other same] at has
      obtain ⟨before, now⟩ := owned.apart known effect same has
      rw [effect.units_other before now]
      exact owned.isOpen other unit has
  · intro one other unit first second
    by_cases isOne : one = id <;> by_cases isOther : other = id
    · rw [isOne, isOther]
    · rw [isOne, now] at first
      rw [others other isOther] at second
      exact absurd first (owned.apart known effect isOther second).2
    · rw [isOther, now] at second
      rw [others one isOne] at first
      exact absurd second (owned.apart known effect isOne first).2
    · rw [others one isOne] at first
      rw [others other isOther] at second
      exact owned.alone one other unit first second
  · intro unit isOpen
    by_cases has : next.unit? = some unit
    · exact ⟨id, now.trans has⟩
    -- A unit that the client had and has no more is closed, so another client owns an open one.
    · have before : client.unit? ≠ some unit := by
        intro had
        rw [had] at effect
        rcases effect.keeps with kept | gone
        · exact has kept
        · rw [gone] at effect
          exact isOpen effect.isClosed
      rw [effect.units_other before has] at isOpen
      obtain ⟨other, had⟩ := owned.owner unit isOpen
      have different : other ≠ id := fun same => before (mine.symm.trans (same ▸ had))
      exact ⟨other, (others other different).trans had⟩
  · intro other present
    rw [count]
    by_cases same : other = id
    · exact owned.arrived other (by simp [same, known])
    · rw [clients, assign_other _ _ same] at present
      exact owned.arrived other present

theorem Owned.welcome (owned : Owned state) {client : Client} (fresh : client.unit? = none) :
    Owned (state.welcome client) := by
  have others : ∀ other unit, (state.welcome client).unitOf other = some unit →
      state.unitOf other = some unit := by
    intro other unit has
    by_cases same : other = ⟨state.lastClient + 1⟩
    · simp [unitOf, State.welcome, same, fresh] at has
    · simpa only [unitOf, State.welcome, assign_other _ _ same] using has
  refine ⟨owned.sound, fun other unit has => owned.isOpen other unit (others other unit has),
    fun one other unit first second =>
      owned.alone one other unit (others one unit first) (others other unit second),
    ?_, ?_⟩
  · intro unit isOpen
    obtain ⟨other, has⟩ := owned.owner unit isOpen
    exact ⟨other, owned.unitOf_welcome has client⟩
  · intro other present
    by_cases same : other = ⟨state.lastClient + 1⟩
    · rw [same]
      exact Nat.le_refl _
    · simp only [State.welcome, assign_other _ _ same] at present
      exact Nat.le_succ_of_le (owned.arrived other present)

/-!
## Transitions
-/

/-- What an action can make of a state, if units in the hands of callers are only asked what is
allowed. -/
inductive Transition (allowed : Request → Prop) (state : State) : State → Prop
  | quiet {after : State} (rearmed : Rearmed state.memory after.memory)
      (clients : after.clients = state.clients) (count : after.lastClient = state.lastClient)
      (grants : after.grants = state.grants) :
      Transition allowed state after
  | posts (posting : Posting) :
      Transition allowed state (state.welcome (.posting posting (.running (.opening .fresh))))
  | inquires (inquiry : Inquiry) :
      Transition allowed state (state.welcome (.inquiry inquiry (.running (.opening .fresh))))
  | opens (deadline : Deadline) :
      Transition allowed state (state.welcome (.hand (.running (.opening deadline .fresh))))
  | proceeds {id : ClientId} {client : Client} (known : state.clients id = some client) :
      Transition allowed state
        { state.settle id (client.proceed state.world) with
          grants := if client.gainsRow (client.proceed state.world).2 then
            state.grants ++ [id] else state.grants }
  | givesUp {id : ClientId} {client : Client} (known : state.clients id = some client) :
      Transition allowed state (state.settle id (client.giveUp state.world))
  | asks {id : ClientId} {unit : UnitId}
      {last : Option ((request : Request) × Except StoreError request.Reply)} {request : Request}
      (known : state.clients id = some (.hand (.running (.idle unit last))))
      (isAllowed : allowed request) :
      Transition allowed state
        { state with
          clients :=
          assign state.clients id (some (.hand (.running (.asking unit request .fresh)))) }
  | finishes {id : ClientId} {unit : UnitId}
      {last : Option ((request : Request) × Except StoreError request.Reply)} {ending : Ending}
      (known : state.clients id = some (.hand (.running (.idle unit last)))) :
      Transition allowed state
        { state with
          clients :=
          assign state.clients id (some (.hand (.running (.finishing unit ending .fresh)))) }

theorem direct_cases (state : State) (id : ClientId) (task : UnitId → Hand) :
    state.direct id task = state ∨
      ∃ unit last, state.clients id = some (.hand (.running (.idle unit last))) ∧
      state.direct id task =
        { state with
          clients := assign state.clients id (some (.hand (.running (task unit)))) } := by
  unfold direct
  split
  · next unit last known => exact .inr ⟨unit, last, known, rfl⟩
  · exact .inl rfl

theorem perform_transition {allowed : Request → Prop} (state : State) (action : Action)
    (asked : ∀ id request, action = .ask id request → allowed request) :
    Transition allowed state (state.perform action) := by
  have still : Transition allowed state state := .quiet (.refl _) rfl rfl rfl
  cases action with
  | wait milliseconds => exact .quiet (.refl _) rfl rfl rfl
  | cancel token => exact .quiet (.refl _) rfl rfl rfl
  | failNext point => exact .quiet ⟨_, state.memory.delays, rfl⟩ rfl rfl rfl
  | delayNext point milliseconds => exact .quiet ⟨state.memory.faults, _, rfl⟩ rfl rfl rfl
  | post posting => exact .posts posting
  | inquire inquiry => exact .inquires inquiry
  | openUnit deadline => exact .opens deadline
  | ask id request =>
      rcases direct_cases state id fun unit => .asking unit request Memory.store.fresh
        with same | ⟨unit, last, known, done⟩
      · simp only [perform, same]
        exact still
      · simp only [perform, done]
        exact .asks known (asked id request rfl)
  | finish id ending =>
      rcases direct_cases state id fun unit => .finishing unit ending Memory.store.fresh
        with same | ⟨unit, last, known, done⟩
      · simp only [perform, same]
        exact still
      · simp only [perform, done]
        exact .finishes known
  | proceed id =>
      cases known : state.clients id with
      | none =>
          simp only [perform, known]
          exact still
      | some client =>
          simp only [perform, known]
          exact .proceeds known
  | giveUp id =>
      cases known : state.clients id with
      | none =>
          simp only [perform, known]
          exact still
      | some client =>
          simp only [perform, known]
          exact .givesUp known

/-- What an action leaves of the ledger: only the steps of clients do more to it than to order
failures and delays. -/
inductive Leaves (state : State) : Action → Memory → Prop
  | rearms {action : Action} {after : Memory}
      (idle : ∀ id, action = .proceed id → state.clients id = none)
      (rearmed : Rearmed state.memory after) : Leaves state action after
  | proceeds {id : ClientId} {client : Client} (known : state.clients id = some client) :
      Leaves state (.proceed id) (client.proceed state.world).2.store
  | givesUp {id : ClientId} {client : Client} (known : state.clients id = some client) :
      Leaves state (.giveUp id) (client.giveUp state.world).2.store

theorem perform_leaves (state : State) (action : Action) :
    Leaves state action (state.perform action).memory := by
  have directed : ∀ id task, (state.direct id task).memory = state.memory := by
    intro id task
    rcases direct_cases state id task with same | ⟨unit, last, known, done⟩
    · rw [same]
    · rw [done]
  cases action with
  | wait milliseconds => exact .rearms (fun id same => by cases same) (.refl _)
  | cancel token => exact .rearms (fun id same => by cases same) (.refl _)
  | failNext point => exact .rearms (fun id same => by cases same) ⟨_, state.memory.delays, rfl⟩
  | delayNext point milliseconds =>
      exact .rearms (fun id same => by cases same) ⟨state.memory.faults, _, rfl⟩
  | post posting => exact .rearms (fun id same => by cases same) (.refl _)
  | inquire inquiry => exact .rearms (fun id same => by cases same) (.refl _)
  | openUnit deadline => exact .rearms (fun id same => by cases same) (.refl _)
  | ask id request =>
      refine .rearms (fun id same => by cases same) ?_
      simp only [perform, directed]
      exact .refl _
  | finish id ending =>
      refine .rearms (fun id same => by cases same) ?_
      simp only [perform, directed]
      exact .refl _
  | proceed id =>
      cases known : state.clients id with
      | none =>
          simp only [perform, known]
          exact .rearms (fun other same => by cases same; exact known) (.refl _)
      | some client =>
          simp only [perform, known]
          exact .proceeds known
  | giveUp id =>
      cases known : state.clients id with
      | none =>
          simp only [perform, known]
          exact .rearms (fun other same => by cases same) (.refl _)
      | some client =>
          simp only [perform, known]
          exact .givesUp known

/-- What an action can make of a state as far as units of work are concerned. -/
inductive Advance (state : State) : State → Prop
  | quiet {after : State} (rearmed : Rearmed state.memory after.memory)
      (clients : after.clients = state.clients)
      (count : after.lastClient = state.lastClient) : Advance state after
  | arrives {client : Client} (fresh : client.unit? = none) : Advance state (state.welcome client)
  | steps {after : State} {id : ClientId} {client next : Client}
      (known : state.clients id = some client)
      (effect : Effect state.memory client.unit? next.unit? after.memory)
      (clients : after.clients = assign state.clients id (some next))
      (count : after.lastClient = state.lastClient) :
      Advance state after

theorem Transition.advance {allowed : Request → Prop}
    (transition : Transition allowed state after) :
    Advance state after := by
  cases transition with
  | quiet rearmed clients count grants => exact .quiet rearmed clients count
  | posts posting => exact .arrives rfl
  | inquires inquiry => exact .arrives rfl
  | opens deadline => exact .arrives rfl
  | proceeds known => exact .steps known (client_effect _ state.world) rfl rfl
  | givesUp known => exact .steps known (client_giveUp_effect _ state.world) rfl rfl
  | asks known isAllowed => exact .steps known (.acts .refl) rfl rfl
  | finishes known => exact .steps known (.acts .refl) rfl rfl

theorem Owned.advance (owned : Owned state) (advance : Advance state after) : Owned after := by
  cases advance with
  | quiet rearmed clients count => exact owned.quiet rearmed clients count
  | arrives fresh => exact owned.welcome fresh
  | steps known effect clients count => exact owned.step known effect clients count

end State

/-- The units in the hands of callers are only asked what is allowed. -/
def Asks (allowed : Request → Prop) (actions : List Action) : Prop :=
  ∀ id request, .ask id request ∈ actions → allowed request

theorem transition_induction {property : State → Prop} {allowed : Request → Prop}
    {actions : List Action} {state : State} (asked : Asks allowed actions) (holds : property state)
    (kept : ∀ state after, property state → State.Transition allowed state after → property after) :
    property (actions.foldl State.perform state) :=
  perform_induction (fun state action member holds =>
    kept state _ holds
      (state.perform_transition action fun id request same => asked id request (same ▸ member)))
    state holds

theorem asks_anything (actions : List Action) : Asks (fun _ => True) actions := fun _ _ _ => trivial

theorem owned_run (actions : List Action) : (run actions).Owned :=
  transition_induction (asks_anything actions) State.owned_start fun _ _ owned transition =>
    owned.advance transition.advance

theorem run_onwards (property : State → Prop) {allowed : Request → Prop}
    {actions later : List Action} (asked : Asks allowed later) (holds : property (run actions))
    (kept : ∀ state after, state.Owned → property state → State.Transition allowed state after →
      property after) :
    property (run (actions ++ later)) := by
  have both : ∀ state after, state.Owned ∧ property state → State.Transition allowed state after →
      after.Owned ∧ property after := fun state after holds transition =>
    ⟨holds.1.advance transition.advance, kept state after holds.1 holds.2 transition⟩
  rw [run_append]
  exact (transition_induction asked ⟨owned_run actions, holds⟩ both).2

theorem run_append_concat (earlier later : List Action) (action : Action) :
    run (earlier ++ (later ++ [action])) = (run (earlier ++ later)).perform action := by
  rw [← List.append_assoc]
  exact run_append _ [action]

/-- What every action keeps of a state that a run has reached holds from then on. -/
theorem perform_onwards (property : State → Prop) {earlier : List Action}
    (holds : property (run earlier))
    (kept : ∀ state, state.Owned → property state → ∀ action, property (state.perform action))
    (later : List Action) :
    property (run (earlier ++ later)) := by
  have both : ∀ state, ∀ action ∈ later, state.Owned ∧ property state →
      (state.perform action).Owned ∧ property (state.perform action) := by
    intro state action _ holds
    have transition : State.Transition (fun _ => True) state (state.perform action) :=
      state.perform_transition action fun _ _ _ => trivial
    exact ⟨holds.1.advance transition.advance, kept state holds.1 holds.2 action⟩
  rw [run_append]
  exact (perform_induction both _ ⟨owned_run earlier, holds⟩).2

/-!
## What a client wants
-/

/-- The movement that a client wants, if it is a posting. -/
def Client.posting? : Client → Option Posting
  | .posting wanted _ => some wanted
  | _ => none

theorem Client.posting?_proceed (client : Client) (world : World Memory) :
    (client.proceed world).1.posting? = client.posting? := by
  cases client with
  | posting posting course => cases course <;> rfl
  | inquiry inquiry course => cases course <;> rfl
  | hand course => cases course <;> rfl

theorem Client.posting?_giveUp (client : Client) (world : World Memory) :
    (client.giveUp world).1.posting? = client.posting? := by
  cases client with
  | posting posting course => cases course <;> rfl
  | inquiry inquiry course => cases course <;> rfl
  | hand course => cases course <;> rfl

theorem posting?_transition {allowed : Request → Prop} {state after : State} {id : ClientId}
    {wanted : Option Posting} (owned : state.Owned)
    (transition : State.Transition allowed state after)
    (known : (state.clients id).map Client.posting? = some wanted) :
    (after.clients id).map Client.posting? = some wanted := by
  obtain ⟨client, found, wants⟩ := Option.map_eq_some_iff.mp known
  have arrives : ∀ another, ((state.welcome another).clients id).map Client.posting? =
      some wanted := by
    intro another
    rw [owned.clients_welcome found another, Option.map_some, wants]
  have steps : ∀ {actor next}, (actor = id → next.posting? = wanted) →
      (assign state.clients actor (some next) id).map Client.posting? = some wanted := by
    intro actor next same
    by_cases mine : id = actor
    · rw [mine, assign_same, Option.map_some, same mine.symm]
    · rw [assign_other _ _ mine]
      exact known
  cases transition with
  | quiet rearmed clients count grants => rwa [clients]
  | posts posting => exact arrives _
  | inquires inquiry => exact arrives _
  | opens deadline => exact arrives _
  | proceeds actor =>
      refine steps fun same => ?_
      rw [same, found] at actor
      rw [Client.posting?_proceed, ← Option.some.inj actor, wants]
  | givesUp actor =>
      refine steps fun same => ?_
      rw [same, found] at actor
      rw [Client.posting?_giveUp, ← Option.some.inj actor, wants]
  | asks actor isAllowed =>
      refine steps fun same => ?_
      rw [same, found] at actor
      rw [← wants, Option.some.inj actor]
      rfl
  | finishes actor =>
      refine steps fun same => ?_
      rw [same, found] at actor
      rw [← wants, Option.some.inj actor]
      rfl

end Passbook.Shared
