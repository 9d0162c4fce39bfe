import Passbook.Proofs.Shared.Ascending
import Passbook.Proofs.Shared.Replay
import Passbook.Proofs.Shared.RowLocks

/-!
Statements. The row of an account and its history are read by two calls, but the row is held in
between; so what is read is what was committed at one moment, and there the balance follows from the
history.
-/

set_option autoImplicit false

namespace Passbook.Shared

open Memory (Progress Sees)

/-- Whether a statement is what was committed at some moment of a run while a client was reading the
statement. -/
def Existed (actions : List Action) (id : ClientId) (account : AccountId) (deadline : Deadline)
    (statement : Statement) : Prop :=
  ∃ moment phase, moment <+: actions ∧ (run moment).clients id =
    some (.inquiry (.statement account deadline) (.running phase)) ∧
    (run moment).memory.account? account = some statement.account ∧
      (run moment).memory.entriesOf account = statement.entries

/-- How far a client has come with a statement, and what it knows of it. -/
inductive Reading (memory : Memory) (existed : Statement → Prop) (account : AccountId)
    (deadline : Deadline) :
    Course (Query.Phase UnitId Progress (Option Statement)) (Query.Result (Option Statement)) → Prop
  | opening (progress : Progress) :
      Reading memory existed account deadline (.running (.opening progress))
  | locking {unit : UnitId} {next : Option Account → Script (Option Statement)}
      {progress : Progress}
      (script : (Query.statement account deadline).script = .ask (.lock account deadline) next)
      (clean : memory.units unit = some .empty) :
      Reading memory existed account deadline
        (.running (.asking unit (.lock account deadline) next progress))
  | listing {unit : UnitId} {row : Account} {progress : Progress}
      (clean : memory.units unit = some .empty) (sees : Sees memory unit account row) :
      Reading memory existed account deadline
        (.running (.asking unit (.list account) (fun entries => .done (some ⟨row, entries⟩))
          progress))
  | committing {unit : UnitId} {answer : Option Statement} {progress : Progress}
      (known : ∀ statement, answer = some statement → existed statement) :
      Reading memory existed account deadline (.running (.committing unit answer progress))
  | undoing (unit : UnitId) (cause : StoreError) (progress : Progress) :
      Reading memory existed account deadline (.running (.undoing unit cause progress))
  | ended {result : Query.Result (Option Statement)}
      (known : ∀ statement, result = .ok (some statement) → existed statement) :
      Reading memory existed account deadline (.ended result)
  | dropped : Reading memory existed account deadline .dropped

variable {state after : State} {memory left : Memory} {existed later : Statement → Prop}
  {account : AccountId} {deadline : Deadline}
  {course : Course (Query.Phase UnitId Progress (Option Statement))
    (Query.Result (Option Statement))}

theorem Reading.mono (reading : Reading memory existed account deadline course)
    (kept : ∀ statement, existed statement → later statement) :
    Reading memory later account deadline course := by
  cases reading with
  | opening progress => exact .opening progress
  | locking script clean => exact .locking script clean
  | listing clean sees => exact .listing clean sees
  | committing known =>
      exact .committing fun statement same => kept statement (known statement same)
  | undoing unit cause progress => exact .undoing unit cause progress
  | ended known => exact .ended fun statement same => kept statement (known statement same)
  | dropped => exact .dropped

private theorem clean_locking {unit : UnitId}
    {result : Poll Progress (Except StoreError (Option Account))}
    (clean : memory.units unit = some .empty)
    (locking : Memory.Locking unit account memory result left) :
    left.units unit = some .empty := by
  have joined : (memory.join unit account).units unit = some .empty :=
    (congrFun (Memory.units_join memory unit account) unit).trans clean
  cases locking with
  | waits deadline free => exact joined
  | timesOut detail free => exact joined
  | locks held seen => exact joined
  | misses held unseen => exact joined

/-- A step of a client that reads a statement. What it reads of the history belongs to the row that
it holds. -/
theorem Reading.move {phase : Query.Phase UnitId Progress (Option Statement)} {world : World Memory}
    {turn : Turn (Query.Phase UnitId Progress (Option Statement)) (Query.Result (Option Statement))}
    (reading : Reading world.store existed account deadline (.running phase))
    (now : ∀ row, world.store.account? account = some row →
      existed ⟨row, world.store.entriesOf account⟩)
    (move : (Query.statement account deadline).Move world phase turn left) :
    Reading left existed account deadline (.ofTurn turn) := by
  cases move with
  | keepsOpening opening => exact .opening _
  | opens opening =>
      cases opening with
      | opens rearmed => exact .locking rfl (assign_same _ _ _)
  | failsToOpen opening => exact .ended fun statement same => by cases same
  | @keepsAsking unit request script progress next left tried =>
      cases reading with
      | locking script clean =>
          have locking := Memory.tryLock_locking unit account deadline world
          rw [show Memory.tryLock unit account deadline world = _ from tried] at locking
          exact .locking script (clean_locking clean locking)
      | listing clean sees => cases tried
  | @hears unit request script progress reply left tried =>
      cases reading with
      | locking script clean =>
          have locking := Memory.tryLock_locking unit account deadline world
          rw [show Memory.tryLock unit account deadline world = _ from tried] at locking
          have still := clean_locking clean locking
          cases script
          cases reply with
          | none => exact .committing fun statement same => by cases same
          | some row => exact .listing still (Memory.sees_of_locked tried)
      | listing clean sees =>
          cases tried
          have row := sees.seen
          rw [Memory.view_of_empty clean] at row
          refine .committing fun statement same => ?_
          cases same
          have committed : world.store.history unit account = world.store.entriesOf account := by
            rw [Memory.history_eq, Memory.staged_of_units clean]
            exact List.append_nil _
          rw [committed]
          exact now _ row
  | fails tried => exact .undoing _ _ _
  | keepsCommitting rearmed =>
      cases reading with
      | committing known => exact .committing known
  | commits ended =>
      cases reading with
      | committing known => exact .ended fun statement same => known statement (Except.ok.inj same)
  | failsToCommit ended => exact .ended fun statement same => by cases same
  | keepsUndoing rearmed => exact .undoing _ _ _
  | undoes ended => exact .ended fun statement same => by cases same

theorem Reading.others (reading : Reading state.memory existed account deadline course)
    (owned : state.Owned) (careful : Invariant.Everywhere Client.Careful state)
    {one two : Option UnitId} (effect : Effect state.memory one two after.memory)
    (apart : ∀ unit, course.unit? Query.Phase.unit? = some unit → one ≠ some unit ∧ two ≠ some unit)
    (owner : ∀ unit, one = some unit → ∃ other actor, state.clients other = some actor ∧
      actor.unit? = some unit) :
    Reading after.memory existed account deadline course := by
  have units : ∀ unit, course.unit? Query.Phase.unit? = some unit →
      after.memory.units unit = state.memory.units unit :=
    fun unit has => effect.units_other (apart unit has).1 (apart unit has).2
  cases reading with
  | opening progress => exact .opening progress
  | locking script clean => exact .locking script ((units _ rfl).trans clean)
  | listing clean sees =>
      exact .listing ((units _ rfl).trans clean)
        (sees_others owned careful sees effect (apart _ rfl) owner).1
  | committing known => exact .committing known
  | undoing unit cause progress => exact .undoing unit cause progress
  | ended known => exact .ended known
  | dropped => exact .dropped

/-- Where a client that reads a statement has come from by a step of its own. -/
private theorem reading_of_proceed {client : Client} {world : World Memory}
    (now : (client.proceed world).1 = .inquiry (.statement account deadline) course) :
    (∃ phase turn, client = .inquiry (.statement account deadline) (.running phase) ∧
      course = .ofTurn turn ∧
      (Query.statement account deadline).Move world phase turn (client.proceed world).2.store) ∨
      (client = .inquiry (.statement account deadline) course ∧
        (client.proceed world).2 = world) := by
  cases client with
  | posting wanted course => cases course <;> cases now
  | hand course => cases course <;> cases now
  | inquiry asked before =>
      cases before with
      | running phase =>
          cases now
          exact .inl ⟨phase, _, rfl, rfl, (Query.statement account deadline).step_move phase world⟩
      | ended result =>
          cases now
          exact .inr ⟨rfl, rfl⟩
      | dropped =>
          cases now
          exact .inr ⟨rfl, rfl⟩

private theorem reading_of_giveUp {client : Client} {world : World Memory}
    (now : (client.giveUp world).1 = .inquiry (.statement account deadline) course) :
    course = .dropped ∨
      (client = .inquiry (.statement account deadline) course ∧
        (client.giveUp world).2 = world) := by
  cases client with
  | posting wanted course => cases course <;> cases now
  | hand course => cases course <;> cases now
  | inquiry asked before =>
      cases before with
      | running phase =>
          cases now
          exact .inl rfl
      | ended result =>
          cases now
          exact .inr ⟨rfl, rfl⟩
      | dropped =>
          cases now
          exact .inr ⟨rfl, rfl⟩

theorem reading_run {actions : List Action} {id : ClientId}
    (known : (run actions).clients id = some (.inquiry (.statement account deadline) course)) :
    Reading (run actions).memory (Existed actions id account deadline) account deadline course := by
  refine client_run
    (motive := fun actions client =>
      ∀ course, client = .inquiry (.statement account deadline) course →
        Reading (run actions).memory (Existed actions id account deadline) account deadline course)
          ?_ ?_ ?_ ?_ known course rfl
  · rintro _ _ _ ⟨⟩
  · rintro _ _ _ ⟨⟩
    exact .opening .fresh
  · rintro _ _ _ ⟨⟩
  · rintro actions action client _ before reading fate known course rfl
    have kept : ∀ statement, Existed actions id account deadline statement →
        Existed (actions ++ [action]) id account deadline statement := by
      rintro statement ⟨moment, phase, taken, existed⟩
      exact ⟨moment, phase, taken.trans (List.prefix_append _ _), existed⟩
    cases fate with
    | spared same effect apart owner =>
        cases same.symm.trans known
        exact ((reading _ rfl).others (owned_run actions)
          (careful_clients.run (asks_anything actions)) effect apart owner).mono kept
    | proceeds now world =>
        rw [State.memory, world]
        rcases reading_of_proceed (Option.some.inj (now.symm.trans known))
          with ⟨phase, turn, rfl, rfl, move⟩ | ⟨rfl, same⟩
        · refine ((reading _ rfl).mono kept).move (fun row committed => ?_) move
          exact ⟨actions, phase, List.prefix_append _ _, before, committed, rfl⟩
        · rw [same]
          exact (reading _ rfl).mono kept
    | givesUp now world =>
        rw [State.memory, world]
        rcases reading_of_giveUp (Option.some.inj (now.symm.trans known)) with rfl | ⟨rfl, same⟩
        · exact .dropped
        · rw [same]
          exact (reading _ rfl).mono kept
    | asks was now world => cases now.symm.trans known
    | finishes was now world => cases now.symm.trans known

/-- After a credit and a debit the statement of the account is read. -/
def sampleReading : List Action :=
  sampleActions ++ [.inquire (.statement ⟨1⟩ .never)] ++ List.replicate 4 (.proceed ⟨5⟩)

def sampleStatement : Statement :=
  ⟨sampleRegistration.account ⟨1⟩, (run sampleReading).memory.entriesOf ⟨1⟩⟩

theorem asks_sampleReading : Asks (fun request => request.isMild = true) sampleReading := by
  intro id request member
  simp [sampleReading, sampleActions] at member

/-- A statement that has been answered agrees with itself: its balance follows from its entries,
which are those of its account in the order of their numbers. It is what was committed at one moment
while it was being read. -/
theorem statements_consistent (actions : List Action)
    (asked : Asks (fun request => request.isMild = true) actions) (id : ClientId)
    (account : AccountId) (deadline : Deadline) (statement : Statement)
    (answered : (run actions).clients id =
      some (.inquiry (.statement account deadline) (.ended (.ok (some statement))))) :
    statement.isConsistent = true ∧
      (∀ entry ∈ statement.entries, entry.account = some statement.account.id) ∧
      (statement.entries.Pairwise fun one two => one.id.value < two.id.value) ∧
      Existed actions id account deadline statement := by
  have existed : Existed actions id account deadline statement := by
    cases reading_run answered with
    | ended known => exact known statement rfl
  obtain ⟨moment, phase, taken, reading, row, entries⟩ := existed
  have mild : Asks (fun request => request.isMild = true) moment :=
    fun id request member => asked id request (taken.subset member)
  have number : statement.account.id = account := Memory.id_of_find? row
  refine ⟨?_, ?_, ?_, moment, phase, taken, reading, row, entries⟩
  · have consistent := (replayed_run mild account).isConsistent row
    rw [entries] at consistent
    exact consistent
  · intro entry member
    rw [← entries] at member
    rw [number]
    simpa using (List.mem_filter.mp member).2
  · rw [← entries]
    exact (ascending_run mild).committed account

theorem statements_consistent_sample :
    sampleStatement.entries.length = 2 ∧ sampleStatement.isConsistent = true ∧
      Existed sampleReading ⟨5⟩ ⟨1⟩ .never sampleStatement := by
  have answered : (run sampleReading).clients ⟨5⟩ =
      some (.inquiry (.statement ⟨1⟩ .never) (.ended (.ok (some sampleStatement)))) := rfl
  have consistent :=
    statements_consistent sampleReading asks_sampleReading ⟨5⟩ ⟨1⟩ .never sampleStatement answered
  exact ⟨by decide +kernel, consistent.1, consistent.2.2.2⟩

end Passbook.Shared
