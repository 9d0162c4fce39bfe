import Passbook.Proofs.Shared.Commitment

/-!
What becomes of the unit of work of a client that is over. The unit stays closed for good, and a
number that it had got for an entry is never seen, unless the client has published it.
-/

set_option autoImplicit false

namespace Passbook.Shared

open Memory (Progress Sound Lost)

namespace Effect

variable {memory after : Memory} {one two : Option UnitId} {unit : UnitId} {number : Int}

/-- A unit that was closed once stays closed. -/
theorem closed (effect : Effect memory one two after)
    (isOpen : ∀ unit, one = some unit → memory.units unit ≠ none)
    (counted : unit.number ≤ memory.lastUnit) (closed : memory.units unit = none) :
    after.units unit = none := by
  have before : one ≠ some unit := fun same => isOpen unit same closed
  have now : two ≠ some unit := by
    intro same
    cases effect with
    | opens rearmed =>
        rw [← rearmed.lastUnit, ← Option.some.inj same] at counted
        exact Nat.not_succ_le_self _ counted
    | acts acts => exact before same
    | idles rearmed => cases same
    | drops acts => cases same
    | publishes rearmed free => cases same
  exact (effect.units_other before now).trans closed

theorem lost (effect : Effect memory one two after) (lost : Lost memory number) :
    Lost after number := by
  cases effect with
  | idles rearmed => exact lost.rearmed rearmed
  | opens rearmed => exact (lost.rearmed rearmed).openUnit
  | acts acts => exact lost.acts acts
  | drops acts => exact (lost.acts acts).discard _
  | publishes rearmed free => exact (lost.rearmed rearmed).publish _

/-- A client that ends its unit without changing the committed ledger loses the numbers that the
unit has got. -/
theorem loses (effect : Effect memory (some unit) none after) (sound : Sound memory)
    (isOpen : memory.units unit ≠ none) (tables : after.tables = memory.tables)
    (member : number ∈ memory.entryNumbers (some unit)) : Lost after number := by
  cases effect with
  | drops acts => exact Memory.lost_discard (sound.acts isOpen acts) (acts.keepsNumber member)
  | @publishes _ before rearmed free =>
      -- Nothing can have been staged, since nothing was added.
      have added : memory.entries ++ (memory.staged unit).entries = memory.entries := by
        have entries := congrArg Prod.snd tables
        have same := rearmed.staged unit
        simpa only [Memory.tables, Memory.entries_publish, rearmed.entries, same] using entries
      rw [Memory.entryNumbers, List.append_right_eq_self.mp added] at member
      cases member

theorem keepsNumber (effect : Effect memory (some unit) (some unit) after)
    (member : number ∈ memory.entryNumbers (some unit)) :
    number ∈ after.entryNumbers (some unit) := by
  cases effect with
  | acts acts => exact acts.keepsNumber member

end Effect

namespace State

variable {state after : State} {id : ClientId} {unit : UnitId} {number : Int}

/-- Whether a unit has been opened and closed again. -/
structure Retired (state : State) (unit : UnitId) : Prop where
  counted : unit.number ≤ state.memory.lastUnit
  closed : state.memory.units unit = none

theorem Retired.advance (retired : state.Retired unit) (owned : state.Owned)
    (advance : Advance state after) :
    after.Retired unit := by
  cases advance with
  | quiet rearmed clients count =>
      exact ⟨rearmed.lastUnit.symm ▸ retired.counted,
        (congrFun rearmed.units unit).trans retired.closed⟩
  | arrives fresh => exact ⟨retired.counted, retired.closed⟩
  | steps known effect clients count =>
      have isOpen := owned.isOpen_of_known known
      exact ⟨Nat.le_trans retired.counted effect.lastUnit_le,
        effect.closed isOpen retired.counted retired.closed⟩

/-- Nothing remains of a unit: it is closed, it neither holds a row nor waits for one, and nobody
has it. -/
structure Released (state : State) (unit : UnitId) : Prop where
  closed : state.memory.units unit = none
  unqueued : ∀ row, unit ∉ state.memory.queues row
  abandoned : ∀ id, state.unitOf id ≠ some unit

theorem Retired.released (retired : state.Retired unit) (owned : state.Owned) :
    state.Released unit where
  closed := retired.closed
  unqueued row member := owned.sound.queued row unit member retired.closed
  abandoned id has := owned.isOpen id unit has retired.closed

/-- A client has its unit until the unit is closed. -/
theorem unitOf_or_retired (owned : state.Owned) (advance : Advance state after)
    (before : state.unitOf id = some unit ∨ state.Retired unit) :
    after.unitOf id = some unit ∨ after.Retired unit := by
  rcases before with has | retired
  · cases advance with
    | quiet rearmed clients count => exact .inl (by simpa only [unitOf, clients] using has)
    | arrives fresh => exact .inl (owned.unitOf_welcome has _)
    | @steps after actor client next known effect clients count =>
        by_cases same : id = actor
        · have mine : client.unit? = some unit := by simpa [unitOf, same, known] using has
          have now : after.unitOf id = next.unit? := by simp [unitOf, same, clients]
          rw [mine] at effect
          rcases effect.keeps with kept | gone
          · exact .inl (now.trans kept)
          · rw [gone] at effect
            have counted := owned.sound.counted unit (owned.isOpen id unit has)
            exact .inr ⟨Nat.le_trans counted effect.lastUnit_le, effect.isClosed⟩
        · exact .inl (by simpa only [unitOf, clients, assign_other _ _ same] using has)
  · exact .inr (retired.advance owned advance)

theorem lost_advance (lost : Lost state.memory number) (advance : Advance state after) :
    Lost after.memory number := by
  cases advance with
  | quiet rearmed clients count => exact lost.rearmed rearmed
  | arrives fresh => exact lost
  | steps known effect clients count => exact effect.lost lost

/-!
## Numbers of entries
-/

/-- Where the number of an entry can be that a posting has got in its unit: with the unit, lost, or
published by a posting that has succeeded. -/
inductive Numbered (state : State) (id : ClientId) (unit : UnitId) (number : Int) : Prop
  | staged {posting : Posting} {phase : Posting.Phase UnitId Progress}
      (known : state.clients id = some (.posting posting (.running phase)))
      (has : phase.unit? = some unit)
      (member : number ∈ state.memory.entryNumbers (some unit)) : Numbered state id unit number
  | lost (lost : Lost state.memory number) : Numbered state id unit number
  | published {posting : Posting} {receipt : Receipt}
      (known : state.clients id = some (.posting posting (.ended (.ok receipt)))) :
      Numbered state id unit number

private theorem Numbered.others (numbered : state.Numbered id unit number) (owned : state.Owned)
    {actor : ClientId} {client next : Client} (known : state.clients actor = some client)
    (effect : Effect state.memory client.unit? next.unit? after.memory)
    (clients : after.clients = assign state.clients actor (some next)) (different : id ≠ actor) :
    after.Numbered id unit number := by
  have same : after.clients id = state.clients id := by rw [clients, assign_other _ _ different]
  cases numbered with
  | staged mine has member =>
      have unitOf : state.unitOf id = some unit := by
        rw [State.unitOf, mine]
        exact has
      obtain ⟨before, now⟩ := owned.apart known effect different unitOf
      have numbers := Memory.entryNumbers_of_units (effect.units_other before now)
      exact .staged (same.trans mine) has (numbers.symm ▸ member)
  | lost lost => exact .lost (effect.lost lost)
  | published mine => exact .published (same.trans mine)

private theorem staged_of_spared (owned : state.Owned) {posting : Posting}
    {phase : Posting.Phase UnitId Progress}
    {next : Course (Posting.Phase UnitId Progress) Posting.Result}
    (mine : state.clients id = some (.posting posting (.running phase)))
    (has : phase.unit? = some unit) (member : number ∈ state.memory.entryNumbers (some unit))
    (effect : Effect state.memory phase.unit? (Client.posting posting next).unit? after.memory)
    (tables : after.memory.tables = state.memory.tables)
    (now : after.clients id = some (.posting posting next)) :
    after.Numbered id unit number := by
  have isOpen : state.memory.units unit ≠ none := owned.isOpen_of_known mine unit has
  rw [has] at effect
  rcases effect.keeps with kept | gone
  · rw [kept] at effect
    cases next with
    | running phase => exact .staged now kept (effect.keepsNumber member)
    | ended result => cases kept
    | dropped => cases kept
  · rw [gone] at effect
    exact .lost (effect.loses owned.sound isOpen tables member)

private theorem Numbered.own (numbered : state.Numbered id unit number) (owned : state.Owned)
    {posting : Posting} {course next : Course (Posting.Phase UnitId Progress) Posting.Result}
    (known : state.clients id = some (.posting posting course))
    (effect : Effect state.memory (Client.posting posting course).unit?
      (Client.posting posting next).unit? after.memory)
    (step : OwnStep posting state.memory after.memory course next)
    (clients : after.clients = assign state.clients id (some (.posting posting next))) :
    after.Numbered id unit number := by
  have now : after.clients id = some (.posting posting next) := by rw [clients, assign_same]
  cases numbered with
  | staged mine has member =>
      rw [mine] at known
      cases known
      cases step with
      | commits commits => exact .published now
      | spares tables unpaid => exact staged_of_spared owned mine has member effect tables now
      | rests tables => exact staged_of_spared owned mine has member effect tables now
  | lost lost => exact .lost (effect.lost lost)
  | published mine =>
      rw [mine] at known
      cases known
      cases step with
      | rests tables => exact .published now

private theorem Numbered.lost_of_other (numbered : state.Numbered id unit number) {client : Client}
    (known : state.clients id = some client)
    (other : ∀ posting course, client ≠ .posting posting course) :
    Lost state.memory number := by
  cases numbered with
  | staged mine has member => exact absurd (Option.some.inj (known.symm.trans mine)) (other _ _)
  | lost lost => exact lost
  | published mine => exact absurd (Option.some.inj (known.symm.trans mine)) (other _ _)

private theorem Numbered.step (numbered : state.Numbered id unit number) (owned : state.Owned)
    {actor : ClientId} {client next : Client} (known : state.clients actor = some client)
    (effect : Effect state.memory client.unit? next.unit? after.memory)
    (clients : after.clients = assign state.clients actor (some next))
    (posting : ∀ posting course, client = .posting posting course →
      ∃ course', next = .posting posting course' ∧
      OwnStep posting state.memory after.memory course course') :
    after.Numbered id unit number := by
  by_cases same : id = actor
  · rw [← same] at known clients
    cases client with
    | posting wanted course =>
        obtain ⟨course', rfl, step⟩ := posting wanted course rfl
        exact numbered.own owned known effect step clients
    | inquiry inquiry course =>
        exact .lost (effect.lost (numbered.lost_of_other known fun _ _ other => by cases other))
    | hand course =>
        exact .lost (effect.lost (numbered.lost_of_other known fun _ _ other => by cases other))
  · exact numbered.others owned known effect clients same

theorem Numbered.transition {allowed : Request → Prop} (numbered : state.Numbered id unit number)
    (owned : state.Owned) (fits : Invariant.Everywhere Client.Fits state)
    (transition : Transition allowed state after) :
    after.Numbered id unit number := by
  have arrives : ∀ client, (state.welcome client).Numbered id unit number := by
    intro client
    cases numbered with
    | staged mine has member => exact .staged (owned.clients_welcome mine client) has member
    | lost lost => exact .lost lost
    | published mine => exact .published (owned.clients_welcome mine client)
  cases transition with
  | quiet rearmed clients count grants =>
      cases numbered with
      | staged mine has member =>
          have numbers := Memory.entryNumbers_of_units (congrFun rearmed.units unit)
          exact .staged (clients ▸ mine) has (numbers.symm ▸ member)
      | lost lost => exact .lost (lost.rearmed rearmed)
      | published mine => exact .published (clients ▸ mine)
  | posts posting => exact arrives _
  | inquires inquiry => exact arrives _
  | opens deadline => exact arrives _
  | proceeds known =>
      refine numbered.step owned known (client_effect _ state.world) rfl
        fun posting course same => ?_
      subst same
      exact own_proceed (fits _ _ known)
  | givesUp known =>
      refine numbered.step owned known (client_giveUp_effect _ state.world) rfl
        fun posting course same => ?_
      subst same
      exact own_giveUp posting course state.world
  | asks known isAllowed =>
      exact numbered.step owned known (.acts .refl) rfl fun posting course same => by cases same
  | finishes known =>
      exact numbered.step owned known (.acts .refl) rfl fun posting course same => by cases same

end State

end Passbook.Shared
