import Passbook.Proofs.Memory.Numbering
import Passbook.Proofs.Memory.Published
import Passbook.Proofs.Shared.CallMove
import Passbook.Proofs.Shared.PostingMove
import Passbook.Proofs.Shared.State

/-!
What a step of a client does to a shared ledger. Whatever the client is, it opens a unit of work,
acts in its own, or ends it; only the end of a unit can change the committed accounts and entries.
-/

set_option autoImplicit false

namespace Passbook.Shared

open Memory (Progress Acts Rearmed Sound)

/-!
## Effects
-/

/-- What a step of a client does to the ledger, given the unit that the client has before and after
it. -/
inductive Effect (memory : Memory) : Option UnitId → Option UnitId → Memory → Prop
  | idles {after : Memory} (rearmed : Rearmed memory after) : Effect memory none none after
  | opens {before : Memory} (rearmed : Rearmed memory before) :
      Effect memory none (some ⟨before.lastUnit + 1⟩) before.openUnit.2
  | acts {unit : UnitId} {after : Memory} (acts : Acts unit memory after) :
      Effect memory (some unit) (some unit) after
  | drops {unit : UnitId} {before : Memory} (acts : Acts unit memory before) :
      Effect memory (some unit) none (before.discard unit)
  | publishes {unit : UnitId} {before : Memory} (rearmed : Rearmed memory before)
      (free : before.clash? unit = none) : Effect memory (some unit) none (before.publish unit)

variable {memory after : Memory} {unit : UnitId}

private theorem effect_of_opening {result : Except StoreError UnitId}
    (opening : Memory.Opening memory (.ready result) after) :
    Effect memory none (match result with | .ok unit => some unit | .error _ => none) after := by
  cases opening with
  | opens rearmed => exact .opens rearmed
  | fails error rearmed => exact .idles rearmed

private theorem effect_of_waiting {progress : Progress}
    (opening : Memory.Opening memory (.waiting progress) after) :
    Effect memory none none after := by
  cases opening with
  | waits _ rearmed => exact .idles rearmed

private theorem effect_of_commit {result : Except StoreError Unit}
    (committing : Memory.Committing unit memory (.ready result) after) :
    Effect memory (some unit) none after := by
  cases committing with
  | fails error rearmed => exact .drops (rearmed.acts unit)
  | commits rearmed free => exact .publishes rearmed free

private theorem effect_of_rollback {result : Except StoreError Unit}
    (rollingBack : Memory.RollingBack unit memory (.ready result) after) :
    Effect memory (some unit) none after := by
  cases rollingBack with
  | rollsBack _ rearmed => exact .drops (rearmed.acts unit)

def Course.unit? {κ ρ : Type} (unitOf : κ → Option UnitId) : Course κ ρ → Option UnitId
  | .running call => unitOf call
  | .ended _ => none
  | .dropped => none

/-- Whether a call has a property as long as it runs. -/
def Course.WhileRunning {κ ρ : Type} (property : κ → Prop) : Course κ ρ → Prop
  | .running call => property call
  | .ended _ => True
  | .dropped => True

theorem posting_effect {posting : Posting} {phase : Posting.Phase UnitId Progress}
    {turn : Turn (Posting.Phase UnitId Progress) Posting.Result}
    (move : Posting.Move posting memory phase turn after) :
    Effect memory phase.unit? ((Course.ofTurn turn).unit? Posting.Phase.unit?) after := by
  cases move with
  | keepsOpening opening => exact effect_of_waiting opening
  | opens opening => exact effect_of_opening opening
  | failsToOpen opening => exact effect_of_opening opening
  | interruptedOpening interruption => exact .idles (.refl _)
  | keepsLocking locking => exact .acts locking.acts
  | accepts locking posted => exact .acts locking.acts
  | refuses locking posted => exact .acts locking.acts
  | misses locking => exact .acts locking.acts
  | timesOut locking => exact .drops locking.acts
  | keepsWriting setting => exact .acts setting.acts
  | writes setting => exact .acts setting.acts
  | failsToWrite setting => exact .acts setting.acts
  | keepsAppending appending => exact .acts appending.acts
  | appends appending => exact .acts appending.acts
  | appendsTooLate interruption appending => exact .drops appending.acts
  | failsToAppend appending => exact .acts appending.acts
  | interrupted stage interruption owned early withdrawn =>
      rw [owned]
      exact .drops withdrawn
  | keepsCommitting committing => exact .acts (committing.rearmed.acts _)
  | commits committing => exact effect_of_commit committing
  | failsToCommit committing => exact effect_of_commit committing
  | keepsUndoing rollingBack => exact .acts (rollingBack.rearmed.acts _)
  | undoes rollingBack => exact effect_of_rollback rollingBack

theorem posting_giveUp_effect (posting : Posting) (phase : Posting.Phase UnitId Progress)
    (world : World Memory) :
    Effect world.store phase.unit? none
      (Posting.giveUp Memory.store posting phase world).store := by
  cases phase with
  | opening progress => exact .idles (.refl _)
  | locking unit progress =>
      exact .drops (Memory.withdraw_acts unit posting.lockRequest progress world)
  | writing unit balance progress =>
      exact .drops (Memory.withdraw_acts unit (posting.balanceRequest balance) progress world)
  | appending unit balance progress =>
      exact .drops (Memory.withdraw_acts unit posting.entryRequest progress world)
  | committing unit receipt progress => exact .drops .refl
  | undoing unit cause progress => exact .drops .refl

end Passbook.Shared

namespace Passbook.Query

def Phase.unit? {υ π α : Type} : Phase υ π α → Option υ
  | .opening _ => none
  | .asking unit _ _ _ => some unit
  | .committing unit _ _ => some unit
  | .undoing unit _ _ => some unit

end Passbook.Query

namespace Passbook.Shared

open Memory (Progress Acts Rearmed Sound)

variable {memory after : Memory} {unit : UnitId}

theorem proceed_unit? {α : Type} (unit : UnitId) (script : Script α) :
    (Query.proceed Memory.store unit script).unit? = some unit := by
  cases script <;> rfl

private theorem effect_of_ended {ending : Ending} {result : Except StoreError Unit}
    (ended : Memory.Ended unit memory ending result after) :
    Effect memory (some unit) none after := by
  cases ended with
  | discards rearmed unpublished => exact .drops (rearmed.acts unit)
  | publishes rearmed free => exact .publishes rearmed free

private theorem effect_of_tried {request : Request} {progress : Progress}
    {world left : World Memory} {result : Poll Progress (Except StoreError request.Reply)}
    (tried : Memory.tryAsk unit request progress world = (result, left)) :
    Effect world.store (some unit) (some unit) left.store := by
  have acts := Memory.tryAsk_acts unit request progress world
  rw [tried] at acts
  exact .acts acts

theorem query_effect {α : Type} {query : Query α} {phase : Query.Phase UnitId Progress α}
    {world : World Memory} {turn : Turn (Query.Phase UnitId Progress α) (Query.Result α)}
    (move : query.Move world phase turn after) :
    Effect world.store phase.unit? ((Course.ofTurn turn).unit? Query.Phase.unit?) after := by
  cases move with
  | keepsOpening opening => exact effect_of_waiting opening
  | opens opening =>
      simp only [Course.ofTurn, Course.unit?, proceed_unit?]
      exact effect_of_opening opening
  | failsToOpen opening => exact effect_of_opening opening
  | keepsAsking tried => exact effect_of_tried tried
  | hears tried =>
      simp only [Course.ofTurn, Course.unit?, proceed_unit?]
      exact effect_of_tried tried
  | fails tried => exact effect_of_tried tried
  | keepsCommitting rearmed => exact .acts (rearmed.acts _)
  | commits ended => exact effect_of_ended ended
  | failsToCommit ended => exact effect_of_ended ended
  | keepsUndoing rearmed => exact .acts (rearmed.acts _)
  | undoes ended => exact effect_of_ended ended

theorem query_giveUp_effect {α : Type} (phase : Query.Phase UnitId Progress α)
    (world : World Memory) :
    Effect world.store phase.unit? none (Query.giveUp Memory.store phase world).store := by
  cases phase with
  | opening progress => exact .idles (.refl _)
  | asking unit request next progress =>
      exact .drops (Memory.withdraw_acts unit request progress world)
  | committing unit answer progress => exact .drops .refl
  | undoing unit cause progress => exact .drops .refl

def Hand.unit? : Hand → Option UnitId
  | .opening _ _ => none
  | .idle unit _ => some unit
  | .asking unit _ _ => some unit
  | .finishing unit _ _ => some unit

theorem hand_effect {hand : Hand} {world : World Memory} {course : Course Hand Hand.Result}
    (move : hand.Move world course after) :
    Effect world.store hand.unit? (course.unit? Hand.unit?) after := by
  cases move with
  | keepsOpening opening => exact effect_of_waiting opening
  | opens opening => exact effect_of_opening opening
  | failsToOpen opening => exact effect_of_opening opening
  | idles => exact .acts .refl
  | keepsAsking tried => exact effect_of_tried tried
  | hears tried => exact effect_of_tried tried
  | keepsFinishing rearmed => exact .acts (rearmed.acts _)
  | finishes ended => exact effect_of_ended ended

theorem hand_giveUp_effect (hand : Hand) (world : World Memory) :
    Effect world.store hand.unit? ((hand.giveUp world).1.unit? Hand.unit?)
      (hand.giveUp world).2.store := by
  cases hand with
  | opening deadline progress => exact .idles (.refl _)
  | idle unit last => exact .drops .refl
  | asking unit request progress => exact .acts (Memory.withdraw_acts unit request progress world)
  | finishing unit ending progress => exact .drops .refl

/-- The unit of work of a client. A client that is over has none. -/
def Client.unit? : Client → Option UnitId
  | .posting _ course => course.unit? Posting.Phase.unit?
  | .inquiry _ course => course.unit? Query.Phase.unit?
  | .hand course => course.unit? Hand.unit?

/-- Whether a client has nothing left to do. -/
def Client.isOver : Client → Bool
  | .posting _ course => course.isOver
  | .inquiry _ course => course.isOver
  | .hand course => course.isOver

/-- Cases by what a client is doing, if it is doing anything. -/
theorem Client.running_or_over {motive : Client → Prop}
    (posting : ∀ wanted phase, motive (.posting wanted (.running phase)))
    (inquiry : ∀ asked phase, motive (.inquiry asked (.running phase)))
    (hand : ∀ task, motive (.hand (.running task)))
    (settled : ∀ client, client.isOver = true → motive client) (client : Client) :
    motive client := by
  cases client with
  | posting wanted course =>
      cases course with
      | running phase => exact posting wanted phase
      | ended result => exact settled _ rfl
      | dropped => exact settled _ rfl
  | inquiry asked course =>
      cases course with
      | running phase => exact inquiry asked phase
      | ended result => exact settled _ rfl
      | dropped => exact settled _ rfl
  | hand course =>
      cases course with
      | running task => exact hand task
      | ended result => exact settled _ rfl
      | dropped => exact settled _ rfl

theorem Client.unit?_of_isOver {client : Client} (isOver : client.isOver = true) :
    client.unit? = none := by
  cases client with
  | posting wanted course => cases course <;> first | rfl | cases isOver
  | inquiry asked course => cases course <;> first | rfl | cases isOver
  | hand course => cases course <;> first | rfl | cases isOver

theorem Client.proceed_of_isOver {client : Client} (isOver : client.isOver = true)
    (world : World Memory) :
    client.proceed world = (client, world) := by
  cases client with
  | posting wanted course => cases course <;> first | rfl | cases isOver
  | inquiry asked course => cases course <;> first | rfl | cases isOver
  | hand course => cases course <;> first | rfl | cases isOver

theorem Client.giveUp_of_isOver {client : Client} (isOver : client.isOver = true)
    (world : World Memory) :
    client.giveUp world = (client, world) := by
  cases client with
  | posting wanted course => cases course <;> first | rfl | cases isOver
  | inquiry asked course => cases course <;> first | rfl | cases isOver
  | hand course => cases course <;> first | rfl | cases isOver

theorem client_effect (client : Client) (world : World Memory) :
    Effect world.store client.unit? (client.proceed world).1.unit?
      (client.proceed world).2.store := by
  cases client using Client.running_or_over with
  | posting wanted phase => exact posting_effect (wanted.step_move phase world)
  | inquiry asked phase => exact query_effect (asked.query.step_move phase world)
  | hand task => exact hand_effect (task.step_move world)
  | settled client isOver =>
      rw [Client.proceed_of_isOver isOver, Client.unit?_of_isOver isOver]
      exact .idles (.refl _)

theorem client_giveUp_effect (client : Client) (world : World Memory) :
    Effect world.store client.unit? (client.giveUp world).1.unit?
      (client.giveUp world).2.store := by
  cases client using Client.running_or_over with
  | posting wanted phase => exact posting_giveUp_effect wanted phase world
  | inquiry asked phase => exact query_giveUp_effect phase world
  | hand task => exact hand_giveUp_effect task world
  | settled client isOver =>
      rw [Client.giveUp_of_isOver isOver, Client.unit?_of_isOver isOver]
      exact .idles (.refl _)

namespace Effect

variable {one two : Option UnitId} {other : UnitId}

theorem sound (effect : Effect memory one two after) (sound : Sound memory)
    (isOpen : ∀ unit, one = some unit → memory.units unit ≠ none) : Sound after := by
  cases effect with
  | idles rearmed => exact sound.rearmed rearmed
  | opens rearmed => exact (sound.rearmed rearmed).openUnit
  | acts acts => exact sound.acts (isOpen _ rfl) acts
  | drops acts => exact (sound.acts (isOpen _ rfl) acts).discard _
  | publishes rearmed free => exact (sound.rearmed rearmed).publish _

theorem lastUnit_le (effect : Effect memory one two after) : memory.lastUnit ≤ after.lastUnit := by
  cases effect with
  | idles rearmed => exact Nat.le_of_eq rearmed.lastUnit.symm
  | opens rearmed => exact Nat.le_succ_of_le (Nat.le_of_eq rearmed.lastUnit.symm)
  | acts acts => exact Nat.le_of_eq acts.lastUnit.symm
  | drops acts => exact Nat.le_of_eq acts.lastUnit.symm
  | publishes rearmed free => exact Nat.le_of_eq rearmed.lastUnit.symm

theorem units_other (effect : Effect memory one two after) (before : one ≠ some other)
    (now : two ≠ some other) :
    after.units other = memory.units other := by
  cases effect with
  | idles rearmed => rw [rearmed.units]
  | opens rearmed =>
      have new : other ≠ ⟨_⟩ := fun same => now (same ▸ rfl)
      rw [← rearmed.units]
      exact assign_other _ _ new
  | acts acts => exact acts.spares.units other fun same => before (same ▸ rfl)
  | drops acts =>
      have different : other ≠ _ := fun same => before (same ▸ rfl)
      exact (Memory.units_discard_other _ different).trans (acts.spares.units other different)
  | publishes rearmed free =>
      have different : other ≠ _ := fun same => before (same ▸ rfl)
      rw [← rearmed.units]
      exact (Memory.spares_publish _ _).units other different

theorem holds_other {id : AccountId} (effect : Effect memory one two after)
    (before : one ≠ some other) (held : memory.holds other id = true) :
    after.holds other id = true := by
  have kept : ∀ {rearmed : Memory}, Rearmed memory rearmed → rearmed.holds other id = true := by
    intro between rearmed
    rw [Memory.holds, rearmed.queues]
    exact held
  cases effect with
  | idles rearmed => exact kept rearmed
  | opens rearmed =>
      have still := kept rearmed
      exact still
  | acts acts => exact acts.spares.holds other (fun same => before (same ▸ rfl)) id held
  | drops acts =>
      have different : other ≠ _ := fun same => before (same ▸ rfl)
      exact Memory.holds_discard different (acts.spares.holds other different id held)
  | publishes rearmed free =>
      exact (Memory.spares_publish _ _).holds other (fun same => before (same ▸ rfl)) id
        (kept rearmed)

theorem isSome_account? {id : AccountId} (effect : Effect memory one two after)
    (present : (memory.account? id).isSome) : (after.account? id).isSome := by
  have kept : ∀ {between : Memory}, between.accounts = memory.accounts →
      (between.account? id).isSome := by
    intro between same
    rw [Memory.account?_congr same]
    exact present
  cases effect with
  | idles rearmed => exact kept rearmed.accounts
  | opens rearmed =>
      have still := kept rearmed.accounts
      exact still
  | acts acts => exact kept acts.unpublished.1
  | drops acts =>
      have still := kept acts.unpublished.1
      exact still
  | publishes rearmed free => exact Memory.isSome_account?_publish (kept rearmed.accounts)

theorem isOpen (effect : Effect memory one two after)
    (before : ∀ unit, one = some unit → memory.units unit ≠ none) :
    ∀ unit, two = some unit → after.units unit ≠ none := by
  intro unit now
  cases effect with
  | opens rearmed =>
      cases now
      simp [Memory.openUnit]
  | acts acts =>
      cases now
      exact acts.isOpen (before _ rfl)
  | idles rearmed => cases now
  | drops acts => cases now
  | publishes rearmed free => cases now

theorem isClosed (effect : Effect memory (some unit) none after) : after.units unit = none := by
  cases effect with
  | drops acts => exact Memory.units_discard_same _ _
  | publishes rearmed free => exact Memory.units_discard_same _ _

theorem keeps (effect : Effect memory (some unit) two after) : two = some unit ∨ two = none := by
  cases effect with
  | acts acts => exact .inl rfl
  | drops acts => exact .inr rfl
  | publishes rearmed free => exact .inr rfl

theorem isNew (effect : Effect memory none (some unit) after) (sound : Sound memory) :
    memory.units unit = none := by
  cases effect with
  | opens rearmed =>
      rw [← rearmed.units]
      exact (sound.rearmed rearmed).next_units

end Effect

end Passbook.Shared
