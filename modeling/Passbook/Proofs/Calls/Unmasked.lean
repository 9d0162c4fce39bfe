import Passbook.Proofs.Calls.Alone

/-!
Two runs of a call that differ in the order for rollbacks. Of the call itself only what it is doing
about its unit of work matters; what must hold of its steps is gathered in `Unwinds`, and the rest
follows for every such call. While no rollback has begun, the runs are the same but for the order.
Each run that has begun its rollback can only go on to the failure that it was begun for.
-/

set_option autoImplicit false

namespace Passbook.Calls

open Memory (Progress)
open Shared (Course)

/-- What a call is doing about its unit of work. -/
inductive Role (ε : Type)
  | opening
  | asking (unit : UnitId)
  | committing (unit : UnitId) (isIssued : Bool)
  | undoing (unit : UnitId) (cause : ε) (progress : Option Progress)

def Role.isUndoing {ε : Type} : Role ε → Bool
  | .undoing _ _ _ => true
  | _ => false

variable {κ ε α : Type} {step : κ → Scene → Turn κ (Except ε α) × Scene} {role : κ → Role ε}
  {awaits : ε → Prop} {fails : Bool} {delay : Option Nat} {unit : UnitId} {cause : ε}

/-- How far a call has come with its unit of work. -/
def seen (role : κ → Role ε) : Course κ (Except ε α) → Course (Role ε) (Except ε α)
  | .running phase => .running (role phase)
  | .ended result => .ended result
  | .dropped => .dropped

/-- A call that has not begun a rollback: how far it has come, its landmarks, and the ledger. -/
inductive Calm (awaits : ε → Prop) : Course (Role ε) (Except ε α) → List Landmark → Memory → Prop
  | opening {memory : Memory} : Calm awaits (.running .opening) [] memory
  | asking {memory : Memory} (unit : UnitId) :
      Calm awaits (.running (.asking unit)) [.opens unit] memory
  | committing {memory : Memory} (unit : UnitId) (isIssued : Bool) :
      Calm awaits (.running (.committing unit isIssued)) (.opens unit :: if isIssued then
        [.commits unit] else []) memory
  | undoing {memory : Memory} {cause : ε} (unit : UnitId) (awaited : awaits cause) :
      Calm awaits (.running (.undoing unit cause none)) [.opens unit] memory
  | unopened {memory : Memory} (error : ε) : Calm awaits (.ended (.error error)) [] memory
  | dropped {memory : Memory} {unit : UnitId} {error : ε} (unawaited : ¬ awaits error)
      (gone : memory.Gone unit) :
      Calm awaits (.ended (.error error)) [.opens unit] memory
  | committed {memory : Memory} (unit : UnitId) (result : Except ε α) (gone : memory.Gone unit) :
      Calm awaits (.ended result) [.opens unit, .commits unit] memory

/-- A call that has begun its rollback: it sleeps, or it is over, and then the whole order for
rollbacks is used up. -/
inductive Winding (unit : UnitId) (cause : ε) :
    Course (Role ε) (Except ε α) → List Landmark → Memory → Prop
  | sleeping {memory : Memory} (wakeAt : Nat) (undelayed : memory.delays .rollback = none) :
      Winding unit cause (.running (.undoing unit cause (some (.sleeping wakeAt))))
        [.opens unit] memory
  | answered {memory : Memory} (gone : memory.Gone unit)
      (unfailing : memory.faults .rollback = false) (undelayed : memory.delays .rollback = none) :
      Winding unit cause (.ended (.error cause)) [.opens unit, .undoes unit] memory

def IsCalm (role : κ → Role ε) (awaits : ε → Prop) (run : Course κ (Except ε α) × Scene) : Prop :=
  Calm awaits (seen role run.1) (landmarks run.2.store.trace) run.2.store.inner

def IsWinding (role : κ → Role ε) (unit : UnitId) (cause : ε)
    (run : Course κ (Except ε α) × Scene) : Prop :=
  Winding unit cause (seen role run.1) (landmarks run.2.store.trace) run.2.store.inner

/-- What the steps of a call do about its unit of work. -/
structure Unwinds (step : κ → Scene → Turn κ (Except ε α) × Scene) (role : κ → Role ε)
    (awaits : ε → Prop) : Prop where
  /-- A step that is no rollback does the same whatever the order for rollbacks is. -/
  armed : ∀ phase, (role phase).isUndoing = false → ∀ fails delay world,
    step phase (arm fails delay world) = armed fails delay (step phase world)
  calm : ∀ phase, (role phase).isUndoing = false → ∀ world,
    IsCalm (α := α) role awaits (.running phase, world) →
      IsCalm role awaits (turned (step phase world))
  /-- A rollback is tried until it is answered. -/
  rests : ∀ phase unit cause progress, role phase = .undoing unit cause progress →
    ∀ world next after, tracedStore.tryFinish unit .rollback progress world =
    (.waiting next, after) →
      ∃ later, step phase world = (.rests later, after) ∧ role later = .undoing unit cause next
  /-- Whatever the answer is, the call fails as it would have without it, and at most reports
  something. -/
  ends : ∀ phase unit cause progress, role phase = .undoing unit cause progress →
    ∀ world answer after, tracedStore.tryFinish unit .rollback progress world =
    (.ready answer, after) →
      ∃ events, step phase world = (.ends (.error cause), { after with events })

def ledger (world : Scene) : List Account × List Entry := world.store.inner.tables

/-- Two runs of a call that began with different orders for rollbacks. -/
inductive Paired (role : κ → Role ε) (awaits : ε → Prop) (fails : Bool) (delay : Option Nat) :
    Course κ (Except ε α) × Scene → Course κ (Except ε α) × Scene → Prop
  | beside {run : Course κ (Except ε α) × Scene} (calm : IsCalm role awaits run) :
      Paired role awaits fails delay run (armed fails delay run)
  | apart {plain twin : Course κ (Except ε α) × Scene} {unit : UnitId} {cause : ε}
      (awaited : awaits cause) (winds : IsWinding role unit cause plain)
      (twins : IsWinding role unit cause twin) (tables : ledger twin.2 = ledger plain.2) :
      Paired role awaits fails delay plain twin

/-!
## Steps
-/

/-- A step of a rollback, whatever has been ordered: the rollback sleeps, or the call is over, and
the committed ledger is the same. -/
theorem Unwinds.winds {phase : κ} {progress : Option Progress} {world : Scene}
    (unwinds : Unwinds step role awaits) (undoes : role phase = .undoing unit cause progress)
    (opened : landmarks world.store.trace = [.opens unit])
    (slept : ∀ wakeAt, progress = some (.sleeping wakeAt) →
      world.store.inner.delays .rollback = none) :
    IsWinding role unit cause (turned (step phase world)) ∧
      ledger (turned (step phase world)).2 = ledger world := by
  rcases tryRollback_traced unit slept
    with ⟨wakeAt, after, tried, marks, left⟩ | ⟨answer, after, tried, marks, left⟩
  · obtain ⟨later, taken, still⟩ :=
      unwinds.rests phase unit cause progress undoes world _ after tried
    have undelayed : after.store.inner.delays .rollback = none := by
      rw [left]
      exact assign_same world.store.inner.delays .rollback none
    have tables : ledger after = ledger world := by
      rw [ledger, left]
      rfl
    simp only [turned, taken, IsWinding, Course.ofTurn, seen, still, marks, opened]
    exact ⟨.sleeping wakeAt undelayed, tables⟩
  · obtain ⟨events, taken⟩ := unwinds.ends phase unit cause progress undoes world answer after tried
    have gone : after.store.inner.Gone unit := by
      rw [left]
      exact (Memory.gone_discard world.store.inner unit).ordering
    have unfailing : after.store.inner.faults .rollback = false := by
      rw [left]
      exact assign_same world.store.inner.faults .rollback false
    have undelayed : after.store.inner.delays .rollback = none := by
      rw [left]
      exact assign_same world.store.inner.delays .rollback none
    have tables : ledger after = ledger world := by
      rw [ledger, left]
      rfl
    simp only [turned, taken, IsWinding, Course.ofTurn, seen, marks, opened]
    exact ⟨.answered gone unfailing undelayed, tables⟩

theorem IsWinding.running {phase : κ} {world : Scene}
    (winds : IsWinding (α := α) role unit cause (.running phase, world)) :
    ∃ wakeAt, role phase = .undoing unit cause (some (.sleeping wakeAt)) ∧
      landmarks world.store.trace = [.opens unit] ∧
      world.store.inner.delays .rollback = none := by
  simp only [IsWinding, seen] at winds
  generalize role phase = now, landmarks world.store.trace = marks at winds
  cases winds with
  | sleeping wakeAt undelayed => exact ⟨wakeAt, rfl, rfl, undelayed⟩

/-- A call that has ended after its rollback has begun has seen the rollback answered. -/
structure Answered (unit : UnitId) (cause : ε) (result : Except ε α) (world : Scene) : Prop where
  failed : result = .error cause
  landmarks : landmarks world.store.trace = [.opens unit, .undoes unit]
  gone : world.store.inner.Gone unit
  unfailing : world.store.inner.faults .rollback = false
  undelayed : world.store.inner.delays .rollback = none

theorem IsWinding.ended {result : Except ε α} {world : Scene}
    (winds : IsWinding role unit cause (.ended result, world)) :
    Answered unit cause result world := by
  simp only [IsWinding, seen] at winds
  generalize marked : landmarks world.store.trace = marks at winds
  cases winds with
  | answered gone unfailing undelayed => exact ⟨rfl, marked, gone, unfailing, undelayed⟩

/-- A rollback that has begun goes on or is over, and does not touch the committed ledger. -/
theorem IsWinding.advance {run : Course κ (Except ε α) × Scene}
    (winds : IsWinding role unit cause run) (unwinds : Unwinds step role awaits)
    (happening : Happening) : IsWinding role unit cause (advance step run happening) ∧
      ledger (advance step run happening).2 = ledger run.2 := by
  cases happening with
  | passes milliseconds => exact ⟨winds, rfl⟩
  | cancels token => exact ⟨winds, rfl⟩
  | steps =>
      obtain ⟨course, world⟩ := run
      cases course with
      | running phase =>
          obtain ⟨wakeAt, undoes, opened, undelayed⟩ := winds.running
          exact unwinds.winds undoes opened fun _ _ => undelayed
      | ended result => exact ⟨winds, rfl⟩
      | dropped => exact ⟨winds, rfl⟩

/-- A rollback that has begun is over after a while. -/
theorem IsWinding.ends {run : Course κ (Except ε α) × Scene} (winds : IsWinding role unit cause run)
    (unwinds : Unwinds step role awaits) :
    ∃ milliseconds, ([.passes milliseconds, .steps].foldl (Calls.advance step) run).1 =
      .ended (.error cause) := by
  obtain ⟨course, world⟩ := run
  cases course with
  | running phase =>
      obtain ⟨wakeAt, undoes, -, -⟩ := winds.running
      -- Waiting until `wakeAt` milliseconds have passed is more than enough.
      have awake : wakeAt ≤ ({ world with now := world.now + wakeAt } : Scene).now :=
        Nat.le_add_left _ _
      obtain ⟨answer, after, tried⟩ := tryRollback_awake unit awake
      obtain ⟨events, taken⟩ := unwinds.ends phase unit cause _ undoes _ answer after tried
      refine ⟨wakeAt, ?_⟩
      simp only [List.foldl, Calls.advance, turned, taken, Course.ofTurn]
  | ended result => exact ⟨0, congrArg Course.ended winds.ended.failed⟩
  | dropped => cases winds

theorem IsCalm.of {course : Course κ (Except ε α)} {marks : List Landmark} {world : Scene}
    (told : landmarks world.store.trace = marks)
    (calm : Calm awaits (seen role course) marks world.store.inner) :
    IsCalm role awaits (course, world) := by
  simp only [IsCalm, told]
  exact calm

theorem IsCalm.opening {phase : κ} {world : Scene}
    (calm : IsCalm (α := α) role awaits (.running phase, world)) (opens : role phase = .opening) :
    landmarks world.store.trace = [] := by
  simp only [IsCalm, seen, opens] at calm
  generalize landmarks world.store.trace = marks at calm ⊢
  cases calm
  rfl

theorem IsCalm.asking {phase : κ} {world : Scene}
    (calm : IsCalm (α := α) role awaits (.running phase, world))
    (asks : role phase = .asking unit) : landmarks world.store.trace = [.opens unit] := by
  simp only [IsCalm, seen, asks] at calm
  generalize landmarks world.store.trace = marks at calm ⊢
  cases calm
  rfl

theorem IsCalm.committing {phase : κ} {world : Scene} {isIssued : Bool}
    (calm : IsCalm (α := α) role awaits (.running phase, world))
    (commits : role phase = .committing unit isIssued) :
    landmarks world.store.trace = .opens unit :: if isIssued then [.commits unit] else [] := by
  simp only [IsCalm, seen, commits] at calm
  generalize landmarks world.store.trace = marks at calm ⊢
  cases calm
  rfl

theorem IsCalm.undoing {phase : κ} {world : Scene}
    (calm : IsCalm (α := α) role awaits (.running phase, world))
    (undoes : (role phase).isUndoing = true) :
    ∃ unit cause, role phase = .undoing unit cause none ∧ awaits cause ∧
      landmarks world.store.trace = [.opens unit] := by
  simp only [IsCalm, seen] at calm
  generalize role phase = now, landmarks world.store.trace = marks at calm undoes
  cases calm with
  | undoing unit awaited => exact ⟨unit, _, rfl, awaited, rfl⟩
  | _ => cases undoes

/-- From a common step on, the runs are side by side still, or each has begun its rollback. -/
theorem Unwinds.paired {phase : κ} {world : Scene} (unwinds : Unwinds step role awaits)
    (calm : IsCalm (α := α) role awaits (.running phase, world)) :
    Paired role awaits fails delay (turned (step phase world))
      (turned (step phase (arm fails delay world))) := by
  cases undoes : (role phase).isUndoing with
  | false =>
      have same : turned (step phase (arm fails delay world)) =
          Calls.armed fails delay (turned (step phase world)) := by
        simp only [turned, unwinds.armed phase undoes, Calls.armed]
      rw [same]
      exact .beside (unwinds.calm phase undoes world calm)
  | true =>
      obtain ⟨unit, cause, undoing, awaited, opened⟩ := calm.undoing undoes
      -- Neither rollback has slept before, so that what follows holds of both, whatever their
      -- orders are.
      have begins : ∀ left : Scene, landmarks left.store.trace = [.opens unit] →
          IsWinding role unit cause (turned (step phase left)) ∧
            ledger (turned (step phase left)).2 = ledger left := by
        intro left opened
        apply unwinds.winds undoing opened
        intro wakeAt slept
        cases slept
      obtain ⟨winds, tables⟩ := begins world opened
      obtain ⟨twins, twinTables⟩ := begins (arm fails delay world) opened
      exact .apart awaited winds twins (twinTables.trans tables.symm)

theorem Paired.advance {plain twin : Course κ (Except ε α) × Scene}
    (paired : Paired role awaits fails delay plain twin) (unwinds : Unwinds step role awaits)
    (happening : Happening) :
    Paired role awaits fails delay (advance step plain happening)
      (advance step twin happening) := by
  cases paired with
  | beside calm =>
      cases happening with
      | passes milliseconds => exact .beside calm
      | cancels token => exact .beside calm
      | steps =>
          obtain ⟨course, world⟩ := plain
          cases course with
          | running phase => exact unwinds.paired calm
          | ended result => exact .beside calm
          | dropped => exact .beside calm
  | apart awaited winds twins tables =>
      obtain ⟨later, kept⟩ := winds.advance unwinds happening
      obtain ⟨laterTwin, keptTwin⟩ := twins.advance unwinds happening
      exact .apart awaited later laterTwin ((keptTwin.trans tables).trans kept.symm)

/-!
## Ends
-/

/-- Whether a rollback has been waited for and answered. -/
def Undone (trace : List (Event UnitId)) : Prop :=
  ∃ unit answer, .finished unit .rollback answer ∈ trace

/-- Whether a call has failed with an error that a rollback is waited for, with its unit open and
before it came to its commit. -/
structure FailsMidway (awaits : ε → Prop) (trace : List (Event UnitId)) (result : Except ε α)
    (error : ε) : Prop where
  failed : result = .error error
  opened : ∃ unit, .opened (.ok unit) ∈ trace
  uncommitted : ∀ unit, .issued (.finishing unit .commit) ∉ trace
  awaited : awaits error

/-- Whether no unit of work that has been opened is open any more or has or wants a row. -/
def Released (world : Scene) : Prop :=
  ∀ unit, .opened (.ok unit) ∈ world.store.trace → world.store.inner.Gone unit

/-- What an order for rollbacks has come to when a call has ended. -/
structure Settled (awaits : ε → Prop) (fails : Bool) (delay : Option Nat) (result : Except ε α)
    (world : Scene) : Prop where
  undone : Undone world.store.trace ↔ ∃ error, FailsMidway awaits world.store.trace result error
  usedUp : Undone world.store.trace → world.store.inner.faults .rollback = false ∧
    world.store.inner.delays .rollback = none
  left : ¬ Undone world.store.trace → world.store.inner.faults .rollback = fails ∧
    world.store.inner.delays .rollback = delay

/-- What a call comes to with another order for rollbacks, next to what it comes to without. -/
structure Unmasked (step : κ → Scene → Turn κ (Except ε α) × Scene) (awaits : ε → Prop)
    (fails : Bool) (delay : Option Nat) (plain twin : Course κ (Except ε α) × Scene) : Prop where
  ledger : ledger twin.2 = ledger plain.2
  result : ∀ result other, plain.1 = .ended result → twin.1 = .ended other → other = result
  /-- When one of the runs has ended, the other ends with the same result if it is given time. -/
  later : ∀ result, plain.1 = .ended result →
    ∃ milliseconds, ([.passes milliseconds, .steps].foldl (advance step) twin).1 = .ended result
  sooner : ∀ result, twin.1 = .ended result →
    ∃ milliseconds, ([.passes milliseconds, .steps].foldl (advance step) plain).1 = .ended result
  released : ∀ result, plain.1 = .ended result → Released plain.2
  twinReleased : ∀ result, twin.1 = .ended result → Released twin.2
  settled : ∀ result, twin.1 = .ended result → Settled awaits fails delay result twin.2

section Ends

variable {world : Scene} {result : Except ε α}

theorem undone_iff :
    Undone world.store.trace ↔ ∃ unit, .undoes unit ∈ landmarks world.store.trace :=
  exists_congr fun _ => undoes_mem_landmarks.symm

theorem IsCalm.released (calm : IsCalm role awaits (.ended result, world)) : Released world := by
  intro unit opened
  rw [← opens_mem_landmarks] at opened
  simp only [IsCalm, seen] at calm
  generalize landmarks world.store.trace = marks at calm opened
  cases calm with
  | unopened error => cases opened
  | dropped unawaited gone =>
      cases List.mem_singleton.mp opened
      exact gone
  | committed own result gone =>
      have same : unit = own := by simpa using opened
      exact same ▸ gone

theorem Answered.released (answered : Answered unit cause result world) : Released world := by
  intro own opened
  rw [← opens_mem_landmarks, answered.landmarks] at opened
  have same : own = unit := by simpa using opened
  exact same ▸ answered.gone

/-- A call that has ended without a rollback leaves the order for it alone. -/
theorem IsCalm.settled (calm : IsCalm role awaits (.ended result, world)) :
    Settled awaits fails delay result (arm fails delay world) := by
  have midway : ¬ ∃ error, FailsMidway awaits world.store.trace result error := by
    rintro ⟨error, failed, ⟨unit, opened⟩, uncommitted, awaited⟩
    subst failed
    have unissued := fun unit => mt commits_mem_landmarks.mp (uncommitted unit)
    rw [← opens_mem_landmarks] at opened
    simp only [IsCalm, seen] at calm
    generalize landmarks world.store.trace = marks at calm opened unissued
    cases calm with
    | unopened error => cases opened
    | dropped unawaited gone => exact unawaited awaited
    | committed own result gone => exact unissued own (List.mem_cons_of_mem _ List.mem_cons_self)
  have undone : ¬ Undone world.store.trace := by
    rw [undone_iff]
    rintro ⟨unit, undone⟩
    simp only [IsCalm, seen] at calm
    generalize landmarks world.store.trace = marks at calm undone
    cases calm <;> simp at undone
  refine ⟨iff_of_false undone midway, ?_, ?_⟩
  · exact fun ended => absurd ended undone
  · exact fun _ =>
      ⟨assign_same world.store.inner.faults .rollback fails,
        assign_same world.store.inner.delays .rollback delay⟩

/-- A call that has ended after a rollback has failed midway, and the order for the rollback is used
up. -/
theorem Answered.settled (answered : Answered unit cause result world) (awaited : awaits cause) :
    Settled awaits fails delay result world := by
  have opened : .opened (.ok unit) ∈ world.store.trace := by
    rw [← opens_mem_landmarks, answered.landmarks]
    exact List.mem_cons_self
  have uncommitted : ∀ other, .issued (.finishing other .commit) ∉ world.store.trace := by
    intro other issued
    rw [← commits_mem_landmarks, answered.landmarks] at issued
    simp at issued
  have undone : Undone world.store.trace := by
    rw [undone_iff, answered.landmarks]
    exact ⟨unit, List.mem_cons_of_mem _ List.mem_cons_self⟩
  refine ⟨iff_of_true undone ⟨cause, answered.failed, ⟨unit, opened⟩, uncommitted, awaited⟩, ?_, ?_⟩
  · exact fun _ => ⟨answered.unfailing, answered.undelayed⟩
  · exact fun left => absurd undone left

end Ends

/-!
## Runs
-/

theorem Paired.run {plain twin : Course κ (Except ε α) × Scene}
    (paired : Paired role awaits fails delay plain twin) (unwinds : Unwinds step role awaits)
    (happenings : List Happening) :
    Paired role awaits fails delay (happenings.foldl (Calls.advance step) plain)
      (happenings.foldl (Calls.advance step) twin) := by
  induction happenings generalizing plain twin with
  | nil => exact paired
  | cons happening happenings ih => exact ih (paired.advance unwinds happening)

theorem IsCalm.unmasked {run : Course κ (Except ε α) × Scene} (calm : IsCalm role awaits run) :
    Unmasked step awaits fails delay run (armed fails delay run) := by
  obtain ⟨course, world⟩ := run
  have stays : ∀ {result : Except ε α} {world : Scene}, course = .ended result →
      ([.passes 0, .steps].foldl (Calls.advance step) (course, world)).1 = .ended result := by
    intro result world ended
    subst ended
    rfl
  exact {
    ledger := rfl
    result := fun result other ended twinEnded => Course.ended.inj (twinEnded.symm.trans ended)
    later := fun result ended => ⟨0, stays ended⟩
    sooner := fun result ended => ⟨0, stays ended⟩
    released := by
      intro result ended
      cases ended
      exact calm.released
    twinReleased := by
      intro result ended
      cases ended
      exact fun unit opened => (calm.released unit opened).ordering
    settled := by
      intro result ended
      cases ended
      exact calm.settled }

theorem IsWinding.unmasked {plain twin : Course κ (Except ε α) × Scene}
    (winds : IsWinding role unit cause plain) (twins : IsWinding role unit cause twin)
    (unwinds : Unwinds step role awaits) (awaited : awaits cause)
    (tables : ledger twin.2 = ledger plain.2) : Unmasked step awaits fails delay plain twin := by
  obtain ⟨course, world⟩ := plain
  obtain ⟨twinCourse, twinWorld⟩ := twin
  exact {
    ledger := tables
    result := by
      intro result other ended twinEnded
      cases ended
      cases twinEnded
      exact twins.ended.failed.trans winds.ended.failed.symm
    later := by
      intro result ended
      cases ended
      rw [winds.ended.failed]
      exact twins.ends unwinds
    sooner := by
      intro result ended
      cases ended
      rw [twins.ended.failed]
      exact winds.ends unwinds
    released := by
      intro result ended
      cases ended
      exact winds.ended.released
    twinReleased := by
      intro result ended
      cases ended
      exact twins.ended.released
    settled := by
      intro result ended
      cases ended
      exact twins.ended.settled awaited }

theorem Paired.unmasked {plain twin : Course κ (Except ε α) × Scene}
    (paired : Paired role awaits fails delay plain twin) (unwinds : Unwinds step role awaits) :
    Unmasked step awaits fails delay plain twin := by
  cases paired with
  | beside calm => exact calm.unmasked
  | apart awaited winds twins tables => exact winds.unmasked twins unwinds awaited tables

/-- A call that starts by opening its unit comes to the same with another order for rollbacks. -/
theorem Unwinds.unmasked {start : κ} (unwinds : Unwinds step role awaits)
    (opens : role start = .opening) (fails : Bool) (delay : Option Nat) (world : World Memory)
    (happenings : List Happening) :
    Unmasked step awaits fails delay (alone step start (traced world) happenings)
      (alone step start (traced (Memory.order fails delay world)) happenings) := by
  have calm : IsCalm (α := α) role awaits (.running start, traced world) := by
    simp only [IsCalm, seen, opens]
    exact .opening
  have paired : Paired role awaits fails delay _ (Calls.armed fails delay _) := .beside calm
  exact (paired.run unwinds happenings).unmasked unwinds

end Passbook.Calls
