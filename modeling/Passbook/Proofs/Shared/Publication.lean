import Passbook.Proofs.Memory.View
import Passbook.Proofs.Shared.CallMove
import Passbook.Proofs.Shared.Ownership

/-!
All or nothing. Until a unit of work commits, no other unit sees what it does. When it commits, the
committed ledger is what the unit saw; when it ends in any other way, it is as if the unit had never
been.
-/

set_option autoImplicit false

namespace Passbook.Memory

variable {memory : Memory} {unit other : UnitId} {before after world left : World Memory}

/-- A unit has ended and left nothing behind. -/
structure Vanished (unit : UnitId) (before after : World Memory) : Prop where
  accounts : after.store.accounts = before.store.accounts
  entries : after.store.entries = before.store.entries
  closed : after.store.units unit = none
  released : ∀ row, unit ∉ after.store.queues row
  unseen : ∀ other, other ≠ unit → SameReads before other after other

/-- What a unit saw is committed: this is what every unit sees that is opened next. -/
structure Published (unit : UnitId) (before after : World Memory) : Prop where
  seen : ∀ deadline progress fresh opened,
    store.tryOpenBy deadline progress after = (.ready (.ok fresh), opened) →
      SameReads before unit opened fresh
  closed : after.store.units unit = none
  released : ∀ row, unit ∉ after.store.queues row

/-- What the calls of units of work do to what other units see. -/
structure Atomic (world : World Memory) : Prop where
  opens : ∀ deadline progress other,
    SameReads world other (store.tryOpenBy deadline progress world).2 other
  asks : ∀ unit request progress other, other ≠ unit →
    SameReads world other (store.tryAsk unit request progress world).2 other
  withdraws : ∀ unit request progress other,
    SameReads world other (store.withdraw unit request progress world) other
  waits : ∀ unit ending progress next left, store.tryFinish unit ending progress world =
    (.waiting next, left) →
    ∀ other, SameReads world other left other
  commits : ∀ unit progress left, store.tryFinish unit .commit progress world =
    (.ready (.ok ()), left) →
    Published unit world left
  failsToCommit : ∀ unit progress error left, store.tryFinish unit .commit progress world =
    (.ready (.error error), left) →
    Vanished unit world left
  rollsBack : ∀ unit progress result left, store.tryFinish unit .rollback progress world =
    (.ready result, left) →
    Vanished unit world left
  drops : ∀ unit, Vanished unit world (store.drop unit world)

/-!
## Calls that publish nothing
-/

theorem Rearmed.sameReads (rearmed : Rearmed before.store after.store) (unit : UnitId) :
    SameReads before unit after unit :=
  (sameView_of_units rearmed.tables (congrFun rearmed.units unit)).reads

theorem Acts.sameReads (acts : Acts unit before.store after.store) (different : other ≠ unit) :
    SameReads before other after other :=
  (sameView_of_units acts.tables (acts.spares.units other different)).reads

theorem Sound.sameReads_opening (sound : Sound before.store)
    {result : Poll Progress (Except StoreError UnitId)}
    (opening : Opening before.store result after.store) (other : UnitId) :
    SameReads before other after other := by
  generalize afterOpening : after.store = opened at opening
  cases opening with
  | waits progress rearmed =>
      subst afterOpening
      exact rearmed.sameReads other
  | @opens between rearmed =>
      have staged : after.store.staged other = before.store.staged other := by
        rw [afterOpening, staged_openUnit (sound.rearmed rearmed).next_units,
          Memory.staged, rearmed.units]
        rfl
      have tables : after.store.tables = before.store.tables := by
        rw [afterOpening]
        exact rearmed.tables
      exact (sameView_of_staged tables staged).reads
  | fails error rearmed =>
      subst afterOpening
      exact rearmed.sameReads other

/-- Leaving a queue changes nothing that is read, not even by the unit that leaves. -/
theorem sameReads_withdraw (unit : UnitId) (request : Request) (progress : Progress)
    (world : World Memory) (other : UnitId) :
    SameReads world other (withdraw unit request progress world) other := by
  have units : (withdraw unit request progress world).store.units = world.store.units := by
    unfold withdraw
    split <;> rfl
  exact (sameView_of_units (withdraw_acts unit request progress world).tables
    (congrFun units other)).reads

theorem vanished_discard (rearmed : Rearmed before.store memory)
    (done : after.store = memory.discard unit) :
    Vanished unit before after where
  accounts := by
    rw [done]
    exact rearmed.accounts
  entries := by
    rw [done]
    exact rearmed.entries
  closed := by rw [done, units_discard_same]
  released row := by
    rw [done]
    exact not_mem_queues_discard memory unit row
  unseen other different := by
    have units : after.store.units other = before.store.units other := by
      rw [done, units_discard_other memory different, rearmed.units]
    have tables : after.store.tables = before.store.tables := by
      rw [done]
      exact rearmed.tables
    exact (sameView_of_units tables units).reads

theorem Ended.vanished {ending : Ending} {result : Except StoreError Unit}
    (ended : Ended unit before.store ending result after.store)
    (unpublished : ending = .commit → result ≠ .ok ()) :
    Vanished unit before after := by
  generalize done : after.store = left at ended
  cases ended with
  | discards rearmed _ => exact vanished_discard rearmed done
  | publishes rearmed free => exact absurd rfl (unpublished rfl)

/-!
## The commit
-/

theorem Opening.empty {fresh : UnitId} (opening : Opening memory (.ready (.ok fresh)) after.store) :
    after.store.staged fresh = .empty ∧ after.store.tables = memory.tables := by
  generalize afterOpening : after.store = opened at opening
  cases opening with
  | opens rearmed =>
      refine ⟨?_, rearmed.tables⟩
      simp [openUnit, Memory.staged]

theorem Sound.published (sound : Sound before.store) (rearmed : Rearmed before.store memory)
    (free : memory.clash? unit = none) (done : after.store = memory.publish unit) :
    Published unit before after where
  seen deadline progress fresh opened succeeds := by
    have opening := tryOpenBy_opening deadline progress after
    rw [succeeds, done] at opening
    obtain ⟨empty, tables⟩ := opening.empty
    have earlier : SameReads before unit { before with store := memory } unit :=
      rearmed.sameReads unit
    have later : SameReads { before with store := memory } unit opened fresh :=
      (sameView_publish (sound.rearmed rearmed) free tables empty).reads
    exact fun request isRead progress another =>
      (later request isRead progress another).trans (earlier request isRead progress progress)
  closed := by
    rw [done]
    exact units_discard_same _ unit
  released row := by
    rw [done]
    exact not_mem_queues_discard _ unit row

theorem Sound.atomic (sound : Sound world.store) : Atomic world where
  opens deadline progress := sound.sameReads_opening (tryOpenBy_opening deadline progress world)
  asks unit request progress _ different :=
    (tryAsk_acts unit request progress world).sameReads different
  withdraws := fun unit request progress => sameReads_withdraw unit request progress world
  waits _ _ _ _ _ waiting := (rearmed_of_waiting waiting).sameReads
  commits unit progress left succeeds := by
    have ended := ended_of_ready succeeds
    generalize done : left.store = published at ended
    cases ended with
    | discards rearmed unpublished => exact absurd rfl (unpublished rfl)
    | publishes rearmed free => exact sound.published rearmed free done
  failsToCommit _ _ _ _ fails := (ended_of_ready fails).vanished fun _ => by simp
  rollsBack _ _ _ _ ends := (ended_of_ready ends).vanished fun isCommit => by cases isCommit
  drops _ := vanished_discard (.refl world.store) rfl

/-!
## Endings that are answered
-/

/-- Where an ending can be ordered to fail or to be delayed. -/
def endingPoint : Ending → FaultPoint
  | .commit => .commit
  | .rollback => .rollback

variable {progress : Progress}

private theorem tryFinish_of_waiting {ending : Ending} {later : Progress}
    (entered : enter (endingPoint ending) progress world = (.waiting later, left)) :
    store.tryFinish unit ending progress world = (.waiting later, left) := by
  cases ending <;> simp only [endingPoint] at entered
  · simp only [store, tryFinish, tryCommit, entered]
  · simp only [store, tryFinish, tryRollback, entered]

private theorem tryFinish_of_ready {ending : Ending} {passed : Except StoreError Unit}
    (entered : enter (endingPoint ending) progress world = (.ready passed, left)) :
    ∃ result after, store.tryFinish unit ending progress world = (.ready result, after) := by
  cases ending <;> simp only [endingPoint] at entered
  · simp only [store, tryFinish, tryCommit, entered]
    cases passed with
    | error error => exact ⟨_, _, rfl⟩
    | ok passed =>
        dsimp only
        split <;> exact ⟨_, _, rfl⟩
  · simp only [store, tryFinish, tryRollback, entered]
    exact ⟨_, _, rfl⟩

/-- A unit that is to end waits for its moment and for nothing else. -/
theorem tryFinish_ready_iff (unit : UnitId) (ending : Ending) (progress : Progress)
    (world : World Memory) :
    (∃ result left, store.tryFinish unit ending progress world = (.ready result, left)) ↔
      dueAt (endingPoint ending) progress world ≤ world.now := by
  have entered := enter_eq (endingPoint ending) progress world
  by_cases due : dueAt (endingPoint ending) progress world ≤ world.now
  · rw [if_pos due] at entered
    obtain ⟨passed, left, checked⟩ :=
      checkFault_ready (endingPoint ending) (begun (endingPoint ending) progress world)
    exact iff_of_true (tryFinish_of_ready (entered.trans checked)) due
  · rw [if_neg due] at entered
    refine iff_of_false ?_ due
    intro answered
    obtain ⟨result, left, ready⟩ := answered
    rw [tryFinish_of_waiting entered] at ready
    cases ready

/-- When its moment has come, a commit that is not ordered to fail publishes, unless a user name has
been taken meanwhile. -/
theorem Sound.commit_publishes (sound : Sound world.store)
    (due : dueAt .commit progress world ≤ world.now)
    (unfailing : world.store.faults .commit = false) (free : world.store.clash? unit = none) :
    ∃ left, store.tryFinish unit .commit progress world = (.ready (.ok ()), left) ∧
      Published unit world left := by
  have stillFree : (begun .commit progress world).store.clash? unit = none := by
    cases progress <;> exact free
  have committed : store.tryFinish unit .commit progress world =
      (.ready (.ok ()),
        update (begun .commit progress world) fun memory => memory.publish unit) := by
    simp only [store, tryFinish, tryCommit, enter_of_due due unfailing, stillFree]
  exact ⟨_, committed, sound.atomic.commits _ _ _ committed⟩

theorem Sound.rollback_vanishes (sound : Sound world.store)
    (due : dueAt .rollback progress world ≤ world.now) :
    ∃ result left, store.tryFinish unit .rollback progress world = (.ready result, left) ∧
      Vanished unit world left := by
  obtain ⟨result, left, ended⟩ := (tryFinish_ready_iff unit .rollback progress world).mpr due
  exact ⟨result, left, ended, sound.atomic.rollsBack _ _ _ _ ended⟩

end Passbook.Memory

namespace Passbook.Shared

/-- At every moment of every run, units publish what they see as a whole or not at all. -/
theorem units_atomic (actions : List Action) : Memory.Atomic (run actions).world :=
  (owned_run actions).sound.atomic

/-- A unit creates an account and commits, which takes a while. A unit that is opened meanwhile
reads before the commit, and another one after it. -/
def samplePublication : List Action :=
  [.openUnit .never, .proceed ⟨1⟩, .ask ⟨1⟩ (.insert sampleRegistration), .proceed ⟨1⟩,
    .delayNext .commit 5, .finish ⟨1⟩ .commit, .proceed ⟨1⟩,
    .openUnit .never, .proceed ⟨2⟩, .ask ⟨2⟩ (.find ⟨1⟩), .proceed ⟨2⟩, .wait 5, .proceed ⟨1⟩,
    .openUnit .never, .proceed ⟨3⟩, .ask ⟨3⟩ (.find ⟨1⟩), .proceed ⟨3⟩]

example :
    (run samplePublication).clients ⟨1⟩ = some (.hand (.ended (.ok ()))) ∧
      (run samplePublication).clients ⟨2⟩ =
        some (.hand (.running (.idle ⟨2⟩ (some ⟨.find ⟨1⟩, .ok none⟩)))) ∧
      (run samplePublication).clients ⟨3⟩ =
        some (.hand (.running (.idle ⟨3⟩
          (some ⟨.find ⟨1⟩, .ok (some (sampleRegistration.account ⟨1⟩))⟩)))) :=
  ⟨rfl, rfl, rfl⟩

end Passbook.Shared
