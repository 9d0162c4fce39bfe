import Passbook.Memory.Store
import Passbook.Proofs.Memory.Outcome

/-!
Ledgers with an order for their next rollback. Whatever a store call does, it does the same with
another order for rollbacks, and leaves that order alone, unless it is a rollback itself. A rollback
uses up the order, and ends its unit in the same way whatever the order was.
-/

set_option autoImplicit false

namespace Passbook

namespace Memory

/-- The same ledger with another order for its next rollback. -/
def ordering (memory : Memory) (fails : Bool) (delay : Option Nat) : Memory :=
  { memory with
    faults := assign memory.faults .rollback fails
    delays := assign memory.delays .rollback delay }

/-- A failure that is ordered comes on top of the delay that has been ordered before. -/
theorem failNext_rollback (memory : Memory) :
    memory.failNext .rollback = memory.ordering true (memory.delays .rollback) := by
  rw [ordering, assign_own, failNext]

theorem delayNext_rollback (memory : Memory) (milliseconds : Nat) :
    memory.delayNext .rollback milliseconds =
      memory.ordering (memory.faults .rollback) (some milliseconds) := by
  rw [ordering, assign_own, delayNext]

def order (fails : Bool) (delay : Option Nat) (world : World Memory) : World Memory :=
  update world fun memory => memory.ordering fails delay

/-- What a call has come to, with another order for rollbacks. -/
def ordered {τ : Type} (fails : Bool) (delay : Option Nat)
    (done : τ × World Memory) : τ × World Memory :=
  (done.1, order fails delay done.2)

variable {α : Type} {fails : Bool} {delay : Option Nat} {point : FaultPoint} {progress : Progress}
  {world : World Memory}

/-!
## Calls that are no rollbacks
-/

private theorem checkFault_ordered (other : point ≠ .rollback) (world : World Memory) :
    checkFault point (order fails delay world) = ordered fails delay (checkFault point world) := by
  have same : (order fails delay world).store.faults point = world.store.faults point :=
    assign_other _ _ other
  unfold checkFault
  rw [same]
  split
  · have used : assign (assign world.store.faults .rollback fails) point false =
        assign (assign world.store.faults point false) .rollback fails := assign_comm other.symm _ _
    simp only [ordered, order, update, ordering, used]
  · rfl

private theorem begun_ordered (other : point ≠ .rollback) (progress : Progress)
    (world : World Memory) :
    begun point progress (order fails delay world) =
      order fails delay (begun point progress world) := by
  have used : assign (assign world.store.delays .rollback delay) point none =
      assign (assign world.store.delays point none) .rollback delay := assign_comm other.symm _ _
  cases progress with
  | fresh => simp only [begun, order, update, ordering, used]
  | sleeping wakeAt => rfl
  | queued deadline => simp only [begun, order, update, ordering, used]

private theorem enter_ordered (other : point ≠ .rollback) (progress : Progress)
    (world : World Memory) :
    enter point progress (order fails delay world) =
      ordered fails delay (enter point progress world) := by
  have due : dueAt point progress (order fails delay world) = dueAt point progress world := by
    have same : (order fails delay world).store.delays point = world.store.delays point :=
      assign_other _ _ other
    simp only [dueAt, same]
    rfl
  rw [enter_eq, enter_eq, due, begun_ordered other,
    show (order fails delay world).now = world.now from rfl]
  split
  · exact checkFault_ordered other _
  · rfl

private theorem afterEntering_ordered {next : World Memory → Attempt α} (other : point ≠ .rollback)
    (progress : Progress)
    (same : ∀ world, next (order fails delay world) = ordered fails delay (next world)) :
    afterEntering point progress (order fails delay world) next =
      ordered fails delay (afterEntering point progress world next) := by
  unfold afterEntering
  rw [enter_ordered other]
  rcases enter point progress world with ⟨later | error | ⟨⟩, entered⟩
  · rfl
  · rfl
  · exact same entered

theorem join_ordering (memory : Memory) (unit : UnitId) (id : AccountId) :
    (memory.ordering fails delay).join unit id = (memory.join unit id).ordering fails delay := by
  unfold join
  rw [show (memory.ordering fails delay).queues = memory.queues from rfl]
  split <;> rfl

private theorem afterLocking_ordered {next : World Memory → Attempt α} (unit : UnitId)
    (id : AccountId) (deadline : Deadline)
    (same : ∀ world, next (order fails delay world) = ordered fails delay (next world)) :
    afterLocking unit id deadline (order fails delay world) next =
      ordered fails delay (afterLocking unit id deadline world next) := by
  have joined : update (order fails delay world) (fun memory => memory.join unit id) =
      order fails delay (update world fun memory => memory.join unit id) := by
    simp only [order, update, join_ordering]
  unfold afterLocking
  simp only [joined]
  generalize update world (fun memory => memory.join unit id) = joined
  rw [show (order fails delay joined).store.holds unit id = joined.store.holds unit id from rfl,
    show (order fails delay joined).now = joined.now from rfl]
  split
  · exact same joined
  · split <;> rfl

theorem tryOpen_ordered (progress : Progress) (world : World Memory) :
    tryOpen progress (order fails delay world) = ordered fails delay (tryOpen progress world) :=
  afterEntering_ordered (by decide) progress fun _ => rfl

private theorem tryLock_ordered (unit : UnitId) (id : AccountId) (deadline : Deadline)
    (world : World Memory) :
    tryLock unit id deadline (order fails delay world) =
      ordered fails delay (tryLock unit id deadline world) := by
  refine afterLocking_ordered unit id deadline fun world => ?_
  rw [show (order fails delay world).store.view unit id = world.store.view unit id from rfl]
  cases world.store.view unit id <;> rfl

private theorem tryInsert_ordered (unit : UnitId) (registration : Registration)
    (world : World Memory) :
    tryInsert unit registration (order fails delay world) =
      ordered fails delay (tryInsert unit registration world) := by
  unfold tryInsert
  rw [show (order fails delay world).store.isTaken unit registration.username =
    world.store.isTaken unit registration.username from rfl]
  split <;> rfl

private theorem trySetHeld_ordered (unit : UnitId) (id : AccountId) (balance : Money)
    (world : World Memory) :
    trySetHeld unit id balance (order fails delay world) =
      ordered fails delay (trySetHeld unit id balance world) := by
  refine afterLocking_ordered unit id .never fun world => ?_
  rw [show (order fails delay world).store.view unit id = world.store.view unit id from rfl]
  split <;> rfl

private theorem trySetBalance_ordered (unit : UnitId) (id : AccountId) (balance : Money)
    (progress : Progress) (world : World Memory) :
    trySetBalance unit id balance progress (order fails delay world) =
      ordered fails delay (trySetBalance unit id balance progress world) := by
  rcases trySetBalance_cases progress with ⟨_, _, held⟩ | ⟨_, checked⟩
  · rw [held, held]
    exact trySetHeld_ordered unit id balance world
  · rw [checked, checked]
    refine afterEntering_ordered (by decide) progress fun world => ?_
    unfold trySetChecked
    split
    · rfl
    · exact trySetHeld_ordered unit id balance world

private theorem tryAppend_ordered (unit : UnitId) (draft : EntryDraft) (progress : Progress)
    (world : World Memory) :
    tryAppend unit draft progress (order fails delay world) =
      ordered fails delay (tryAppend unit draft progress world) := by
  refine afterEntering_ordered (by decide) progress fun world => ?_
  have unknown : ∀ id, ((order fails delay world).store.view unit id).isNone =
      (world.store.view unit id).isNone := fun _ => rfl
  simp only [unknown]
  split <;> rfl

theorem tryAsk_ordered (unit : UnitId) (request : Request) (progress : Progress)
    (world : World Memory) :
    tryAsk unit request progress (order fails delay world) =
      ordered fails delay (tryAsk unit request progress world) := by
  cases request with
  | lock id deadline => exact tryLock_ordered unit id deadline world
  | find id => rfl
  | findName username => rfl
  | insert registration => exact tryInsert_ordered unit registration world
  | setBalance id balance => exact trySetBalance_ordered unit id balance progress world
  | append draft => exact tryAppend_ordered unit draft progress world
  | list id => rfl

theorem tryCommit_ordered (unit : UnitId) (progress : Progress) (world : World Memory) :
    tryCommit unit progress (order fails delay world) =
      ordered fails delay (tryCommit unit progress world) := by
  unfold tryCommit
  rw [enter_ordered (by decide)]
  rcases enter .commit progress world with ⟨later | error | ⟨⟩, entered⟩
  · rfl
  · rfl
  · simp only [ordered]
    rw [show (order fails delay entered).store.clash? unit = entered.store.clash? unit from rfl]
    cases entered.store.clash? unit <;> rfl

theorem withdraw_ordered (unit : UnitId) (request : Request) (progress : Progress)
    (world : World Memory) :
    withdraw unit request progress (order fails delay world) =
      order fails delay (withdraw unit request progress world) := by
  cases request <;> cases progress <;> rfl

/-!
## Rollbacks
-/

/-- Whether a unit has ended and left every queue. -/
structure Gone (memory : Memory) (unit : UnitId) : Prop where
  closed : memory.units unit = none
  unqueued : ∀ id, unit ∉ memory.queues id

theorem gone_discard (memory : Memory) (unit : UnitId) : (memory.discard unit).Gone unit where
  closed := units_discard_same memory unit
  unqueued := not_mem_queues_discard memory unit

theorem Gone.ordering {memory : Memory} {unit : UnitId} (gone : memory.Gone unit) :
    (memory.ordering fails delay).Gone unit :=
  ⟨gone.closed, gone.unqueued⟩

/-- A commit ends its unit whatever comes of it. -/
theorem gone_of_tryCommit {unit : UnitId} {answer : Except StoreError Unit} {after : World Memory}
    (answered : tryCommit unit progress world = (.ready answer, after)) :
    after.store.Gone unit := by
  have committing := tryCommit_committing unit progress world
  rw [answered] at committing
  generalize after.store = left at committing
  cases committing with
  | fails error rearmed => exact gone_discard _ unit
  | commits rearmed free => exact gone_discard _ unit

def undelay (world : World Memory) : World Memory := order (world.store.faults .rollback) none world

theorem undelay_of_none (undelayed : world.store.delays .rollback = none) :
    undelay world = world := by
  rw [undelay, ← undelayed]
  simp only [order, update, ordering, assign_own]

/-- What a rollback comes to: it sleeps, its delay used up, or it is over, its unit dropped and the
whole order used up. -/
inductive Undoes (unit : UnitId) (world : World Memory) : Attempt Unit → Prop
  | sleeps (wakeAt : Nat) : Undoes unit world (.waiting (.sleeping wakeAt), undelay world)
  | ends (answer : Except StoreError Unit) :
      Undoes unit world (.ready answer, order false none (store.drop unit world))

private theorem checkFault_rollback (unit : UnitId) (fails : Bool) (world : World Memory) :
    ∃ answer after, checkFault .rollback (order fails none world) = (.ready answer, after) ∧
      update after (fun memory => memory.discard unit) =
        order false none (store.drop unit world) := by
  have asked : (order fails none world).store.faults .rollback = fails :=
    assign_same world.store.faults .rollback fails
  unfold checkFault
  rw [asked]
  cases fails with
  | true =>
      have used : assign (assign world.store.faults .rollback true) .rollback false =
          assign world.store.faults .rollback false :=
        assign_again _ _ _ _
      refine ⟨_, _, rfl, ?_⟩
      simp only [order, update, ordering, store, discard, used]
  | false => exact ⟨_, _, rfl, rfl⟩

private theorem begun_rollback
    (slept : ∀ wakeAt, progress = .sleeping wakeAt → world.store.delays .rollback = none) :
    begun .rollback progress world = undelay world := by
  have early : begun .rollback .fresh world = undelay world := by
    simp only [begun, undelay, order, update, ordering, assign_own]
  cases progress with
  | fresh => exact early
  | sleeping wakeAt => exact (undelay_of_none (slept wakeAt rfl)).symm
  | queued deadline => exact early

/-- A rollback ends its unit in the same way whatever it has been ordered to do. -/
theorem tryRollback_undoes (unit : UnitId)
    (slept : ∀ wakeAt, progress = .sleeping wakeAt → world.store.delays .rollback = none) :
    Undoes unit world (tryRollback unit progress world) := by
  unfold tryRollback
  rw [enter_eq, begun_rollback slept]
  by_cases due : dueAt .rollback progress world ≤ world.now
  · obtain ⟨answer, after, checked, dropped⟩ :=
      checkFault_rollback unit (world.store.faults .rollback) world
    rw [if_pos due, undelay, checked]
    simp only [dropped]
    exact .ends answer
  · rw [if_neg due]
    exact .sleeps _

/-- A rollback that has slept long enough is over. -/
theorem tryRollback_awake {wakeAt : Nat} (unit : UnitId) (awake : wakeAt ≤ world.now) :
    ∃ answer after, tryRollback unit (.sleeping wakeAt) world = (.ready answer, after) := by
  obtain ⟨result, left, checked⟩ := checkFault_ready .rollback world
  have entered : enter .rollback (.sleeping wakeAt) world = (.ready result, left) :=
    (if_pos awake).trans checked
  rw [tryRollback, entered]
  exact ⟨_, _, rfl⟩

end Memory

end Passbook
