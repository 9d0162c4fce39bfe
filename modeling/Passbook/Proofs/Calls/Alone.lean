import Passbook.Proofs.Calls.Story
import Passbook.Proofs.Memory.Arming
import Passbook.Proofs.Shared.State

/-!
Calls that run alone on a ledger in memory. Time passes and callers withdraw, but nothing else uses
the store. What a call has done about its unit of work is read off its trace; the order for
rollbacks changes none of its store calls but the rollback.
-/

set_option autoImplicit false

namespace Passbook.Calls

open Memory (Progress)
open Shared (Course)

/-- A ledger in memory with a caller whose calls are written down. -/
abbrev Scene := World (Traced Memory UnitId)

abbrev tracedStore : LedgerStore (Traced Memory UnitId) UnitId (Option Progress) :=
  Traced.store Memory.store

/-- What can happen while a call runs alone. -/
inductive Happening
  | passes (milliseconds : Nat)
  | cancels (token : Token)
  | steps

section Runs

variable {κ ρ : Type}

def turned (done : Turn κ ρ × Scene) : Course κ ρ × Scene := (.ofTurn done.1, done.2)

def advance (step : κ → Scene → Turn κ ρ × Scene)
    (run : Course κ ρ × Scene) : Happening → Course κ ρ × Scene
  | .passes milliseconds => (run.1, { run.2 with now := run.2.now + milliseconds })
  | .cancels token => (run.1, run.2.cancel token)
  | .steps =>
      match run.1 with
      | .running phase => turned (step phase run.2)
      | _ => run

def alone (step : κ → Scene → Turn κ ρ × Scene) (start : κ) (world : Scene)
    (happenings : List Happening) : Course κ ρ × Scene :=
  happenings.foldl (advance step) (.running start, world)

/-- To try a call is to take some steps at once. -/
theorem settle_alone (step : κ → Scene → Turn κ ρ × Scene) (steps : Nat) (phase : κ)
    (world : Scene) :
    ∃ count ≤ steps,
      (Course.ofPoll (settle step steps phase world).1, (settle step steps phase world).2) =
      alone step phase world (List.replicate count .steps) := by
  induction steps generalizing phase world with
  | zero => exact ⟨0, Nat.le_refl 0, rfl⟩
  | succ steps ih =>
      simp only [settle]
      rcases taken : step phase world with ⟨next | next | result, left⟩
      · refine ⟨1, Nat.le_add_left 1 steps, ?_⟩
        simp only [alone, List.replicate, List.foldl, advance, turned, taken,
          Course.ofPoll, Course.ofTurn]
      · obtain ⟨count, bounded, same⟩ := ih next left
        refine ⟨count + 1, Nat.succ_le_succ bounded, ?_⟩
        simp only [same, alone, List.replicate, List.foldl, advance, turned, taken, Course.ofTurn]
      · refine ⟨1, Nat.le_add_left 1 steps, ?_⟩
        simp only [alone, List.replicate, List.foldl, advance, turned, taken,
          Course.ofPoll, Course.ofTurn]

/-- A ledger in memory whose caller has made no call yet. -/
def traced (world : World Memory) : Scene :=
  ⟨world.now, world.cancelled, ⟨world.store, []⟩, world.events⟩

end Runs

/-!
## Orders for rollbacks
-/

section Arms

variable {α : Type} {fails : Bool} {delay : Option Nat} {unit : UnitId} {world : Scene}

def arm (fails : Bool) (delay : Option Nat) (world : Scene) : Scene :=
  Traced.outside world (Memory.order fails delay (Traced.inside world))

/-- What a call has come to, with another order for rollbacks. -/
def armed {τ : Type} (fails : Bool) (delay : Option Nat) (done : τ × Scene) : τ × Scene :=
  (done.1, arm fails delay done.2)

theorem attempt_armed (call : Call UnitId) (tell : α → World Unit → Event UnitId)
    {tryCall : Progress → World Memory → Poll Progress α × World Memory}
    (same : ∀ progress world, tryCall progress (Memory.order fails delay world) =
      Memory.ordered fails delay (tryCall progress world))
    (progress : Option Progress) (world : Scene) :
    Traced.attempt call .fresh tell tryCall progress (arm fails delay world) =
      armed fails delay (Traced.attempt call .fresh tell tryCall progress world) := by
  have issued : Traced.noteIssue call progress (arm fails delay world) =
      arm fails delay (Traced.noteIssue call progress world) := by
    cases progress <;> rfl
  have tried := same (progress.getD .fresh) (Traced.inside (Traced.noteIssue call progress world))
  simp only [Traced.attempt, issued]
  rw [show Traced.inside (arm fails delay (Traced.noteIssue call progress world)) =
    Memory.order fails delay (Traced.inside (Traced.noteIssue call progress world)) from rfl, tried]
  rcases tryCall (progress.getD .fresh) (Traced.inside (Traced.noteIssue call progress world))
    with ⟨later | answer, left⟩ <;> rfl

theorem tryOpenBy_armed (deadline : Deadline) (progress : Option Progress) (world : Scene) :
    tracedStore.tryOpenBy deadline progress (arm fails delay world) =
      armed fails delay (tracedStore.tryOpenBy deadline progress world) := by
  have opened : tracedStore.tryOpen progress (arm fails delay world) =
      armed fails delay (tracedStore.tryOpen progress world) :=
    attempt_armed .opening (fun answer _ => .opened answer) Memory.tryOpen_ordered progress world
  unfold LedgerStore.tryOpenBy
  rw [opened]
  rcases tracedStore.tryOpen progress world with ⟨later | answer, left⟩
  · simp only [armed]
    rw [show (arm fails delay left).now = left.now from rfl]
    split <;> rfl
  · rfl

theorem tryAsk_armed (unit : UnitId) (request : Request) (progress : Option Progress)
    (world : Scene) :
    tracedStore.tryAsk unit request progress (arm fails delay world) =
      armed fails delay (tracedStore.tryAsk unit request progress world) :=
  attempt_armed (.asking unit request) (.answered unit request) (Memory.tryAsk_ordered unit request)
    progress world

theorem tryCommit_armed (unit : UnitId) (progress : Option Progress) (world : Scene) :
    tracedStore.tryFinish unit .commit progress (arm fails delay world) =
      armed fails delay (tracedStore.tryFinish unit .commit progress world) :=
  attempt_armed (.finishing unit .commit) (fun answer _ => .finished unit .commit answer)
    (Memory.tryCommit_ordered unit) progress world

theorem withdraw_armed (unit : UnitId) (request : Request) (progress : Option Progress)
    (world : Scene) :
    tracedStore.withdraw unit request progress (arm fails delay world) =
      arm fails delay (tracedStore.withdraw unit request progress world) :=
  congrArg (Traced.outside world)
    (Memory.withdraw_ordered unit request (progress.getD .fresh) (Traced.inside world))

end Arms

/-!
## Landmarks
-/

/-- What a call has done about its unit of work. -/
inductive Landmark
  | opens (unit : UnitId)
  | commits (unit : UnitId)
  | undoes (unit : UnitId)

/-- The units that have been opened, those whose commit has been issued, and those whose rollback
has been answered. -/
def landmarks (trace : List (Event UnitId)) : List Landmark :=
  trace.filterMap fun
    | .opened (.ok unit) => some (.opens unit)
    | .issued (.finishing unit .commit) => some (.commits unit)
    | .finished unit .rollback _ => some (.undoes unit)
    | _ => none

section Landmarks

variable {α : Type} {unit : UnitId} {trace : List (Event UnitId)}

theorem landmarks_append (first second : List (Event UnitId)) :
    landmarks (first ++ second) = landmarks first ++ landmarks second :=
  List.filterMap_append

theorem opens_mem_landmarks : .opens unit ∈ landmarks trace ↔ .opened (.ok unit) ∈ trace := by
  constructor
  · intro member
    obtain ⟨event, happened, told⟩ := List.mem_filterMap.mp member
    split at told <;> cases told
    exact happened
  · exact fun happened => List.mem_filterMap.mpr ⟨_, happened, rfl⟩

theorem commits_mem_landmarks :
    .commits unit ∈ landmarks trace ↔ .issued (.finishing unit .commit) ∈ trace := by
  constructor
  · intro member
    obtain ⟨event, happened, told⟩ := List.mem_filterMap.mp member
    split at told <;> cases told
    exact happened
  · exact fun happened => List.mem_filterMap.mpr ⟨_, happened, rfl⟩

theorem undoes_mem_landmarks :
    .undoes unit ∈ landmarks trace ↔ ∃ answer, .finished unit .rollback answer ∈ trace := by
  constructor
  · intro member
    obtain ⟨event, happened, told⟩ := List.mem_filterMap.mp member
    split at told <;> cases told
    exact ⟨_, happened⟩
  · rintro ⟨answer, happened⟩
    exact List.mem_filterMap.mpr ⟨_, happened, rfl⟩

def writtenAnswer (tell : α → World Unit → Event UnitId) :
    Poll (Option Progress) α × Scene → List (Event UnitId)
  | (.waiting _, _) => []
  | (.ready answer, after) => [tell answer (moment after)]

theorem landmarks_attempt (call : Call UnitId) (tell : α → World Unit → Event UnitId)
    {tryCall : Progress → World Memory → Poll Progress α × World Memory}
    {progress : Option Progress} {world : Scene} {attempted : Poll (Option Progress) α × Scene}
    (tried : Traced.attempt call .fresh tell tryCall progress world = attempted) :
    landmarks attempted.2.store.trace =
      landmarks world.store.trace ++
        (landmarks (issue progress.isNone call) ++ landmarks (writtenAnswer tell attempted)) := by
  have issued : (Traced.noteIssue call progress world).store.trace =
      world.store.trace ++ issue progress.isNone call := by
    cases progress with
    | none => rfl
    | some _ => exact (List.append_nil _).symm
  subst tried
  simp only [Traced.attempt]
  rcases tryCall (progress.getD .fresh) (Traced.inside (Traced.noteIssue call progress world))
    with ⟨later | answer, left⟩
  · simp only [Traced.outside, issued, landmarks_append, writtenAnswer]
    exact congrArg _ (List.append_nil _).symm
  · simp only [Traced.note, Traced.outside, issued, landmarks_append, List.append_assoc]
    rfl

def opening {ε : Type} : Poll (Option Progress) (Except ε UnitId) → List Landmark
  | .ready (.ok unit) => [.opens unit]
  | _ => []

theorem landmarks_tryOpenBy (deadline : Deadline) (progress : Option Progress) (world : Scene) :
    landmarks (tracedStore.tryOpenBy deadline progress world).2.store.trace =
      landmarks world.store.trace ++ opening (tracedStore.tryOpenBy deadline progress world).1 := by
  have issued : landmarks (issue progress.isNone .opening) = [] := by cases progress <;> rfl
  unfold LedgerStore.tryOpenBy
  rcases tried : tracedStore.tryOpen progress world with ⟨later | error | unit, left⟩
  · have told := landmarks_attempt .opening (fun answer _ => .opened answer) tried
    rw [issued] at told
    simp only
    split <;> exact told
  · have told := landmarks_attempt .opening (fun answer _ => .opened answer) tried
    rw [issued] at told
    exact told
  · have told := landmarks_attempt .opening (fun answer _ => .opened answer) tried
    rw [issued] at told
    exact told

/-- A request says nothing about the end of a unit. -/
theorem landmarks_tryAsk (unit : UnitId) (request : Request) (progress : Option Progress)
    (world : Scene) :
    landmarks (tracedStore.tryAsk unit request progress world).2.store.trace =
      landmarks world.store.trace := by
  have issued : landmarks (issue progress.isNone (.asking unit request)) = [] := by
    cases progress <;> rfl
  rcases tried : tracedStore.tryAsk unit request progress world with ⟨later | answer, left⟩
  · rw [landmarks_attempt (.asking unit request) (.answered unit request) tried, issued]
    exact List.append_nil _
  · rw [landmarks_attempt (.asking unit request) (.answered unit request) tried, issued]
    exact List.append_nil _

/-- A commit is issued when it is first tried. -/
theorem landmarks_tryCommit (unit : UnitId) (progress : Option Progress) (world : Scene) :
    landmarks (tracedStore.tryFinish unit .commit progress world).2.store.trace =
      landmarks world.store.trace ++ if progress.isNone then [.commits unit] else [] := by
  have issued : landmarks (issue progress.isNone (.finishing unit .commit)) =
      if progress.isNone then [.commits unit] else [] := by
    cases progress <;> rfl
  rcases tried : tracedStore.tryFinish unit .commit progress world with ⟨later | answer, left⟩
  · rw [landmarks_attempt (.finishing unit .commit) (fun answer _ => .finished unit .commit answer)
      tried, issued]
    exact congrArg _ (List.append_nil _)
  · rw [landmarks_attempt (.finishing unit .commit) (fun answer _ => .finished unit .commit answer)
      tried, issued]
    exact congrArg _ (List.append_nil _)

/-- A commit that has been tried has been issued once, whether or not it had been tried before. -/
theorem landmarks_committing {progress : Option Progress} {world : Scene}
    (issued : landmarks world.store.trace = .opens unit :: if progress.isSome then
      [.commits unit] else []) :
    landmarks (tracedStore.tryFinish unit .commit progress world).2.store.trace =
      [.opens unit, .commits unit] := by
  rw [landmarks_tryCommit, issued]
  cases progress <;> rfl

theorem isSome_of_waiting {ending : Ending} {progress later : Option Progress} {world after : Scene}
    (tried : tracedStore.tryFinish unit ending progress world = (.waiting later, after)) :
    later.isSome = true := by
  simp only [Traced.store, Traced.attempt] at tried
  split at tried
  · cases tried
    rfl
  · cases tried

theorem landmarks_waiting {progress later : Option Progress} {world after : Scene}
    (issued : landmarks world.store.trace = .opens unit :: if progress.isSome then
      [.commits unit] else [])
    (tried : tracedStore.tryFinish unit .commit progress world = (.waiting later, after)) :
    landmarks after.store.trace = .opens unit :: if later.isSome then [.commits unit] else [] := by
  have told := landmarks_committing issued
  rw [tried] at told
  rw [isSome_of_waiting tried]
  exact told

theorem landmarks_tryRollback {progress : Option Progress} {world : Scene}
    {attempted : Poll (Option Progress) (Except StoreError Unit) × Scene}
    (tried : tracedStore.tryFinish unit .rollback progress world = attempted) :
    landmarks attempted.2.store.trace =
      landmarks world.store.trace ++
        landmarks (writtenAnswer (fun answer _ => .finished unit .rollback answer) attempted) := by
  have issued : landmarks (issue progress.isNone (.finishing unit .rollback)) = [] := by
    cases progress <;> rfl
  have told :=
    landmarks_attempt (.finishing unit .rollback)
      (fun answer _ => .finished unit .rollback answer) tried
  rwa [issued] at told

/-- A rollback sleeps, its delay used up, or it is answered and has ended its unit, its whole order
used up. -/
theorem tryRollback_traced {progress : Option Progress} {world : Scene} (unit : UnitId)
    (slept : ∀ wakeAt, progress = some (.sleeping wakeAt) →
      world.store.inner.delays .rollback = none) :
    (∃ wakeAt after, tracedStore.tryFinish unit .rollback progress world =
      (.waiting (some (.sleeping wakeAt)), after) ∧
      landmarks after.store.trace = landmarks world.store.trace ∧
      after.store.inner = (Memory.undelay (Traced.inside world)).store) ∨
    (∃ answer after, tracedStore.tryFinish unit .rollback progress world = (.ready answer, after) ∧
      landmarks after.store.trace = landmarks world.store.trace ++ [.undoes unit] ∧
      after.store.inner =
        (Memory.order false none (Memory.store.drop unit (Traced.inside world))).store) := by
  have awoken : ∀ wakeAt, progress.getD .fresh = .sleeping wakeAt →
      (Traced.inside world).store.delays .rollback = none := by
    intro wakeAt same
    cases progress with
    | none => cases same
    | some progress => exact slept wakeAt (congrArg some same)
  have undoes : Memory.Undoes unit (Traced.inside world)
      (Memory.store.tryFinish unit .rollback (progress.getD .fresh) (Traced.inside world)) :=
        Memory.tryRollback_undoes unit awoken
  have erased := Traced.tryFinish_erased Memory.store unit .rollback progress world
  change _ = Memory.store.tryFinish unit .rollback (progress.getD .fresh) (Traced.inside world)
    at erased
  rw [← erased] at undoes
  -- A rollback that has been tried has progress, even where the store behind would begin afresh.
  rcases tried : tracedStore.tryFinish unit .rollback progress world with ⟨next | answer, after⟩
  · rw [tried] at undoes
    have told := landmarks_tryRollback tried
    generalize done : Traced.erasePoll Memory.store (.waiting next, after) = done at undoes
    cases undoes with
    | sleeps wakeAt =>
        obtain ⟨same, left⟩ := Prod.mk.inj done
        have sleeps : next = some (.sleeping wakeAt) := by
          cases next with
          | none => cases same
          | some next => exact congrArg some (Poll.waiting.inj same)
        exact .inl ⟨wakeAt, after, by rw [sleeps], told.trans (List.append_nil _),
          congrArg World.store left⟩
    | ends answer => cases (Prod.mk.inj done).1
  · rw [tried] at undoes
    have told := landmarks_tryRollback tried
    generalize done : Traced.erasePoll Memory.store (.ready answer, after) = done at undoes
    cases undoes with
    | sleeps wakeAt => cases (Prod.mk.inj done).1
    | ends given => exact .inr ⟨answer, after, rfl, told, congrArg World.store (Prod.mk.inj done).2⟩

/-- A commit that has been answered has ended its unit. -/
theorem gone_of_tryCommit {progress : Option Progress} {world after : Scene}
    {answer : Except StoreError Unit}
    (tried : tracedStore.tryFinish unit .commit progress world = (.ready answer, after)) :
    after.store.inner.Gone unit := by
  have erased := Traced.tryFinish_erased Memory.store unit .commit progress world
  rw [tried] at erased
  exact Memory.gone_of_tryCommit erased.symm

/-- A rollback that has slept long enough is answered. -/
theorem tryRollback_awake {wakeAt : Nat} {world : Scene} (unit : UnitId)
    (awake : wakeAt ≤ world.now) :
    ∃ answer after, tracedStore.tryFinish unit .rollback (some (.sleeping wakeAt)) world =
      (.ready answer, after) := by
  have soon : wakeAt ≤ (Traced.inside world).now := awake
  obtain ⟨given, left, answered⟩ := Memory.tryRollback_awake unit soon
  have erased := Traced.tryFinish_erased Memory.store unit .rollback (some (.sleeping wakeAt)) world
  change _ = Memory.tryRollback unit (.sleeping wakeAt) (Traced.inside world) at erased
  rw [answered] at erased
  rcases tried : tracedStore.tryFinish unit .rollback (some (.sleeping wakeAt)) world
    with ⟨next | answer, after⟩
  · rw [tried] at erased
    cases (Prod.mk.inj erased).1
  · exact ⟨answer, after, rfl⟩

end Landmarks

end Passbook.Calls
