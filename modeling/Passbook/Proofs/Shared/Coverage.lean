import Passbook.Proofs.Memory.Rows
import Passbook.Proofs.Shared.Fate
import Passbook.Proofs.Shared.Judgement

/-!
What clients stage in the rows of accounts. Whatever is asked of a unit of work, it stages balances
only in rows that it holds; so no unit can publish a balance for a row that another one holds.
-/

set_option autoImplicit false

namespace Passbook

/-- The row that a query waits for. -/
def Query.Phase.awaited? {α : Type} : Query.Phase UnitId Memory.Progress α → Option AccountId
  | .asking _ request _ progress => request.awaited? progress
  | _ => none

namespace Memory

theorem Covered.withdraw {unit : UnitId} {request : Request} {progress : Progress}
    {world : World Memory} (covered : Covered world.store unit)
    (unstaged : ∀ row, request.awaited? progress = some row →
      (world.store.staged unit).balances row = none) :
    Covered (withdraw unit request progress world).store unit := by
  rw [withdraw_eq]
  cases awaited : request.awaited? progress with
  | none => exact covered
  | some row => exact covered.leave (unstaged row awaited)

end Memory

namespace Shared

open Memory (Progress Rearmed Covered Sees)

/-- The row that a unit in the hands of a caller waits for. -/
def Hand.awaited? : Hand → Option AccountId
  | .asking _ request progress => request.awaited? progress
  | _ => none

/-!
## Staged balances
-/

/-- Whether the unit of a call, if it has one, is covered and has staged nothing in the row that it
waits for. -/
def Tidy (memory : Memory) (unit? : Option UnitId) (awaited? : Option AccountId) : Prop :=
  ∀ unit, unit? = some unit →
    Covered memory unit ∧ ∀ row, awaited? = some row → (memory.staged unit).balances row = none

/-- Whether a client stages balances only in rows that its unit holds. -/
def Client.Careful (memory : Memory) : Client → Prop
  | .posting wanted course => course.Fits wanted memory
  | .inquiry _ (.running phase) => Tidy memory phase.unit? phase.awaited?
  | .inquiry _ _ => True
  | .hand (.running task) => Tidy memory task.unit? task.awaited?
  | .hand _ => True

variable {memory after : Memory} {unit : UnitId} {unit? : Option UnitId}
  {awaited? : Option AccountId}

theorem tidy_none : Tidy memory none awaited? := fun _ has => by cases has

theorem tidy_covered (covered : Covered memory unit) : Tidy memory (some unit) none := by
  intro other same
  cases same
  exact ⟨covered, fun _ awaited => by cases awaited⟩

theorem Tidy.covered (tidy : Tidy memory (some unit) awaited?) : Covered memory unit :=
  (tidy unit rfl).1

theorem Tidy.rearmed (tidy : Tidy memory unit? awaited?) (rearmed : Rearmed memory after) :
    Tidy after unit? awaited? := by
  intro unit has
  obtain ⟨covered, unstaged⟩ := tidy unit has
  refine ⟨covered.rearmed rearmed, fun row awaited => ?_⟩
  rw [Memory.staged, rearmed.units]
  exact unstaged row awaited

theorem Tidy.others {one two : Option UnitId} (tidy : Tidy memory unit? awaited?)
    (effect : Effect memory one two after)
    (apart : ∀ unit, unit? = some unit → one ≠ some unit ∧ two ≠ some unit) :
    Tidy after unit? awaited? := by
  intro unit has
  obtain ⟨covered, unstaged⟩ := tidy unit has
  have units : after.units unit = memory.units unit :=
    effect.units_other (apart unit has).1 (apart unit has).2
  refine ⟨covered.kept units (fun _ => effect.holds_other (apart unit has).1) fun _ =>
    effect.isSome_account?, ?_⟩
  intro row awaited
  rw [Memory.staged, units]
  exact unstaged row awaited

private theorem tidy_opens (opening : Memory.Opening memory (.ready (.ok unit)) after) :
    Tidy after (some unit) none := by
  cases opening with
  | opens rearmed =>
      refine tidy_covered (Memory.covered_of_unstaged fun row => ?_)
      simp [Memory.staged, Memory.openUnit, Staged.empty]

private theorem Tidy.hears {request : Request} {progress : Progress} {world left : World Memory}
    {result : Poll Progress (Except StoreError request.Reply)}
    (tidy : Tidy world.store (some unit) awaited?)
    (tried : Memory.tryAsk unit request progress world = (result, left)) :
    Tidy left.store (some unit) none := by
  have covered := tidy.covered.tryAsk request progress
  rw [tried] at covered
  exact tidy_covered covered

private theorem Tidy.waits {request : Request} {progress next : Progress}
    {world left : World Memory} (tidy : Tidy world.store (some unit) awaited?)
    (tried : Memory.tryAsk unit request progress world = (.waiting next, left)) :
    Tidy left.store (some unit) (request.awaited? next) := by
  have covered := (tidy.hears tried).covered
  intro other same
  cases same
  refine ⟨covered, fun row awaited => covered.unstaged_of_not_held ?_⟩
  have free := Memory.not_held_of_awaited (congrArg Prod.fst tried) awaited
  rwa [tried] at free

theorem Client.Careful.rows {client : Client} (careful : client.Careful memory)
    (has : client.unit? = some unit) (row : AccountId)
    (staged : (memory.staged unit).balances row ≠ none) : memory.holds unit row = true := by
  cases client using Client.running_or_over with
  | posting wanted phase =>
      have guarded := guarded_of_fits careful has
      rw [Memory.staged] at staged
      cases known : memory.units unit with
      | none => exact absurd (by rw [known]; rfl) staged
      | some changes =>
          rw [known] at staged
          exact (guarded changes known).1 row staged
  | inquiry asked phase => exact (careful unit has).1.held row staged
  | hand task => exact (careful unit has).1.held row staged
  | settled client isOver => cases (Client.unit?_of_isOver isOver).symm.trans has

private theorem careful_of_isOver {client : Client} (isOver : client.isOver = true) :
    client.Careful memory := by
  cases client with
  | posting wanted course => cases course <;> trivial
  | inquiry asked course => cases course <;> trivial
  | hand course => cases course <;> trivial

theorem awaited?_proceed {α : Type} (script : Script α) :
    (Query.proceed (υ := UnitId) Memory.store unit script).awaited? = none := by
  cases script <;> rfl

private theorem careful_inquiry (inquiry : Inquiry)
    {phase : Query.Phase UnitId Progress inquiry.Answer} {world : World Memory}
    {turn : Turn (Query.Phase UnitId Progress inquiry.Answer) (Query.Result inquiry.Answer)}
    (tidy : Tidy world.store phase.unit? phase.awaited?)
    (move : inquiry.query.Move world phase turn after) :
    (Client.inquiry inquiry (.ofTurn turn)).Careful after := by
  have asks : ∀ {unit} {script : Script inquiry.Answer}, Tidy after (some unit) none →
      (Client.inquiry inquiry (.running (Query.proceed Memory.store unit script))).Careful
        after := by
    intro unit script tidy
    rw [Client.Careful, proceed_unit?, awaited?_proceed]
    exact tidy
  cases move with
  | keepsOpening opening => exact tidy_none
  | opens opening => exact asks (tidy_opens opening)
  | failsToOpen opening => trivial
  | keepsAsking tried => exact tidy.waits tried
  | hears tried => exact asks (tidy.hears tried)
  | fails tried => exact tidy.hears tried
  | keepsCommitting rearmed => exact tidy.rearmed rearmed
  | commits ended => trivial
  | failsToCommit ended => trivial
  | keepsUndoing rearmed => exact tidy.rearmed rearmed
  | undoes ended => trivial

private theorem careful_hand {hand : Hand} {world : World Memory} {course : Course Hand Hand.Result}
    (tidy : Tidy world.store hand.unit? hand.awaited?) (move : hand.Move world course after) :
    (Client.hand course).Careful after := by
  cases move with
  | keepsOpening opening => exact tidy_none
  | opens opening => exact tidy_opens opening
  | failsToOpen opening => trivial
  | idles => exact tidy
  | keepsAsking tried => exact tidy.waits tried
  | hears tried => exact tidy.hears tried
  | keepsFinishing rearmed => exact tidy.rearmed rearmed
  | finishes ended => trivial

private theorem careful_hand_giveUp {hand : Hand} {world : World Memory}
    (tidy : Tidy world.store hand.unit? hand.awaited?) :
    (Client.hand (hand.giveUp world).1).Careful (hand.giveUp world).2.store := by
  cases hand with
  | opening deadline progress => trivial
  | idle unit last => trivial
  | asking unit request progress => exact tidy_covered (tidy.covered.withdraw (tidy unit rfl).2)
  | finishing unit ending progress => trivial

theorem careful_clients : Invariant (fun _ => True) Client.Careful where
  rearms {memory after client} rearmed careful := by
    cases client using Client.running_or_over with
    | posting wanted phase => exact careful.rearmed rearmed
    | inquiry asked phase => exact Tidy.rearmed careful rearmed
    | hand task => exact Tidy.rearmed careful rearmed
    | settled client isOver => exact careful_of_isOver isOver
  posts memory posting := trivial
  inquires memory inquiry := tidy_none
  opens memory deadline := tidy_none
  asks allowed careful := careful
  finishes careful := careful
  proceeds client world careful := by
    cases client using Client.running_or_over with
    | posting wanted phase => exact move_fits careful (wanted.step_move phase world)
    | inquiry asked phase => exact careful_inquiry asked careful (asked.query.step_move phase world)
    | hand task => exact careful_hand careful (task.step_move world)
    | settled client isOver =>
        rw [Client.proceed_of_isOver isOver]
        exact careful
  givesUp client world careful := by
    cases client using Client.running_or_over with
    | posting wanted phase => trivial
    | inquiry asked phase => trivial
    | hand task => exact careful_hand_giveUp careful
    | settled client isOver =>
        rw [Client.giveUp_of_isOver isOver]
        exact careful
  others {memory after client other next} careful otherCareful effect apart := by
    cases client using Client.running_or_over with
    | posting wanted phase => exact fits_others careful effect apart
    | inquiry asked phase => exact Tidy.others careful effect apart
    | hand task => exact Tidy.others careful effect apart
    | settled client isOver => exact careful_of_isOver isOver

end Shared

end Passbook
