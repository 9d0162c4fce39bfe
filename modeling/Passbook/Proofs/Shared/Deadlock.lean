import Mathlib.Data.Finset.Card
import Mathlib.Logic.Relation
import Passbook.Proofs.Shared.Standing

/-!
Waiting for rows, in ledgers that only calls use. A call that waits for a row holds none, so nobody
who holds a row waits, and the graph of who waits for whom has no paths of two edges. A row is
handed over by whoever leaves it: the call at the head of a queue goes on with its next step, and a
row that nobody has is left waiting for by nobody.

A row is held from the moment at which its holder comes to the head of the queue, even if the holder
has not been told so yet. It is had once the holder has been told.
-/

set_option autoImplicit false

namespace Passbook.Shared

open Memory (Progress Stands)

namespace State

/-- The row that a client has asked for without having an answer. -/
def awaited? (state : State) (id : ClientId) : Option AccountId :=
  (state.clients id).bind Client.awaited?

def Holds (state : State) (id : ClientId) (row : AccountId) : Prop :=
  ∃ unit, state.unitOf id = some unit ∧ state.memory.holds unit row = true

/-- Whether a client has asked for a row that is not its own yet. -/
def Waits (state : State) (id : ClientId) (row : AccountId) : Prop :=
  state.awaited? id = some row ∧ ¬ state.Holds id row

/-- Whether a client holds a row and has been told so. -/
def Has (state : State) (id : ClientId) (row : AccountId) : Prop :=
  state.Holds id row ∧ state.awaited? id = none

/-- The graph of who waits for whom. -/
def WaitsFor (state : State) (one other : ClientId) : Prop :=
  ∃ row, state.Waits one row ∧ state.Holds other row

/-- Whether no call can wait for ever for a row because of how rows are taken and handed over. -/
structure Unblocked (state : State) : Prop where
  /-- A call holds one row at most. -/
  single : ∀ id one other, state.Holds id one → state.Holds id other → one = other
  /-- A call that waits for a row holds none. -/
  waitsFree : ∀ id row, state.Waits id row → ∀ other, ¬ state.Holds id other
  /-- A posting that sets its balance holds the row of its account, and is not in the middle of
  waiting for it. -/
  writes : ∀ id wanted unit balance progress,
    state.clients id = some (.posting wanted (.running (.writing unit balance progress))) →
      state.Holds id wanted.account ∧ ∀ deadline, progress ≠ .queued deadline
  /-- Whoever holds a row is a call that is not over and that does not wait for a row. -/
  holder : ∀ unit row, state.memory.holds unit row = true →
    ∃ id client, state.clients id = some client ∧
    client.unit? = some unit ∧ client.isOver = false ∧ ∀ other, ¬ state.Waits id other
  /-- No edge of the graph of who waits for whom leaves a call that holds a row. -/
  sinks : ∀ one other, state.WaitsFor one other → ∀ next, ¬ state.WaitsFor other next
  acyclic : ∀ id, ¬ Relation.TransGen state.WaitsFor id id
  /-- Whoever is in a queue is a call that is not over, and that has the row or waits for its
  answer: nobody is left behind in a queue. -/
  queued : ∀ row, ∀ unit ∈ state.memory.queues row, ∃ id client, state.clients id = some client ∧
    client.unit? = some unit ∧ client.isOver = false ∧
      (state.Has id row ∨ state.awaited? id = some row)
  /-- A call whose row has been handed over does not wait for it after its next step. -/
  wakes : ∀ id row, state.awaited? id = some row → state.Holds id row →
    (state.perform (.proceed id)).awaited? id = none
  /-- If no step of a call that waits for a row would get it an answer, and nobody has the row,
  nobody waits for it. -/
  settled : ∀ row, (∀ id, ¬ state.Has id row) →
    (∀ id, state.awaited? id = some row → (state.perform (.proceed id)).awaited? id = some row) →
      state.memory.queues row = []
  /-- And such steps come to an end: after at most one step of each of the calls that wait for a
  row, somebody has it or nobody wants it. -/
  served : ∀ row, ∃ ids : List ClientId, ids.Nodup ∧ (∀ id ∈ ids, state.awaited? id = some row) ∧
    ((∃ id, ((ids.map .proceed).foldl State.perform state).Has id row) ∨
      ((ids.map .proceed).foldl State.perform state).memory.queues row = [])

end State

variable {state : State} {actions : List Action} {id : ClientId} {client : Client} {unit : UnitId}
  {row : AccountId}

/-!
## Ledgers that only calls use
-/

theorem Client.isCall_proceed (client : Client) (world : World Memory) :
    (client.proceed world).1.isCall = client.isCall := by
  cases client using Client.running_or_over with
  | settled client isOver => rw [Client.proceed_of_isOver isOver]
  | _ => rfl

theorem Client.isCall_giveUp (client : Client) (world : World Memory) :
    (client.giveUp world).1.isCall = client.isCall := by
  cases client using Client.running_or_over with
  | settled client isOver => rw [Client.giveUp_of_isOver isOver]
  | _ => rfl

/-- Whether all clients are calls. -/
def State.Calls (state : State) : Prop :=
  ∀ id client, state.clients id = some client → client.isCall = true

private theorem calls_assign (calls : state.Calls) (isCall : client.isCall = true) :
    ∀ other known, assign state.clients id (some client) other = some known →
      known.isCall = true := by
  intro other known present
  by_cases same : other = id
  · rw [same, assign_same] at present
    exact Option.some.inj present ▸ isCall
  · rw [assign_other _ _ same] at present
    exact calls other known present

theorem State.Calls.perform {action : Action} (calls : state.Calls)
    (called : ∀ deadline, action ≠ .openUnit deadline) :
    (state.perform action).Calls := by
  have directed : ∀ actor task, (state.direct actor task).Calls := by
    intro actor task
    rcases State.direct_cases state actor task with same | ⟨unit, last, idle, _⟩
    · rwa [same]
    · cases calls actor _ idle
  cases action with
  | wait milliseconds => exact calls
  | cancel token => exact calls
  | failNext point => exact calls
  | delayNext point milliseconds => exact calls
  | post posting => exact calls_assign calls rfl
  | inquire inquiry => exact calls_assign calls rfl
  | openUnit deadline => exact absurd rfl (called deadline)
  | ask actor request => exact directed actor _
  | finish actor ending => exact directed actor _
  | proceed actor =>
      cases present : state.clients actor with
      | none => simpa only [State.perform, present] using calls
      | some other =>
          simp only [State.perform, present]
          exact calls_assign calls
            ((other.isCall_proceed state.world).trans (calls actor other present))
  | giveUp actor =>
      cases present : state.clients actor with
      | none => simpa only [State.perform, present] using calls
      | some other =>
          simp only [State.perform, present]
          exact calls_assign calls
            ((other.isCall_giveUp state.world).trans (calls actor other present))

theorem calls_run (called : ∀ deadline, .openUnit deadline ∉ actions) : (run actions).Calls := by
  refine perform_induction (fun state action member calls => ?_) State.start
    fun id client known => by cases known
  exact State.Calls.perform calls fun deadline same => called deadline (same ▸ member)

/-!
## Where calls stand
-/

theorem State.unitOf_of_known (known : state.clients id = some client) :
    state.unitOf id = client.unit? := by
  simp [State.unitOf, known]

theorem State.awaited?_of_known (known : state.clients id = some client) :
    state.awaited? id = client.awaited? := by
  simp [State.awaited?, known]

theorem known_of_unitOf (has : state.unitOf id = some unit) :
    ∃ client, state.clients id = some client ∧ client.unit? = some unit :=
  Option.bind_eq_some_iff.mp has

private theorem mem_of_holds {memory : Memory} (held : memory.holds unit row = true) :
    unit ∈ memory.queues row :=
  List.mem_of_head? (Memory.holds_iff.mp held)

theorem stands_run (called : ∀ deadline, .openUnit deadline ∉ actions)
    (has : (run actions).unitOf id = some unit) :
    ∃ got?, Stands (run actions).memory unit got? ((run actions).awaited? id) := by
  obtain ⟨client, known, owned⟩ := known_of_unitOf has
  obtain ⟨got?, stands, _⟩ := (placed_run known).stands (calls_run called id client known) owned
  exact ⟨got?, State.awaited?_of_known known ▸ stands⟩

private theorem holds_single (called : ∀ deadline, .openUnit deadline ∉ actions)
    {one other : AccountId} (first : (run actions).Holds id one)
    (second : (run actions).Holds id other) : one = other := by
  obtain ⟨unit, has, held⟩ := first
  obtain ⟨unit', has', held'⟩ := second
  cases has.symm.trans has'
  obtain ⟨got?, stands⟩ := stands_run called has
  exact stands.queue_unique (mem_of_holds held) (mem_of_holds held')

private theorem not_holds_of_waits (called : ∀ deadline, .openUnit deadline ∉ actions)
    (waits : (run actions).Waits id row) (other : AccountId) : ¬ (run actions).Holds id other := by
  rintro ⟨unit, has, held⟩
  obtain ⟨got?, stands⟩ := stands_run called has
  -- A unit that waits for a row has got none, so the only queue that it is in is that of the row
  -- that it waits for.
  have ungot : got? = none := stands.single.resolve_right (by simp [waits.1])
  have awaited := ((stands.queued other).mp (mem_of_holds held)).resolve_left (by simp [ungot])
  cases waits.1.symm.trans awaited
  exact waits.2 ⟨unit, has, held⟩

private theorem queued_run (called : ∀ deadline, .openUnit deadline ∉ actions)
    (member : unit ∈ (run actions).memory.queues row) :
    ∃ id client, (run actions).clients id = some client ∧ client.unit? = some unit ∧
      client.isOver = false ∧
      ((run actions).Has id row ∨ (run actions).awaited? id = some row) := by
  have owned := owned_run actions
  obtain ⟨id, has⟩ := owned.owner unit (owned.sound.queued row unit member)
  obtain ⟨client, known, mine⟩ := known_of_unitOf has
  obtain ⟨got?, stands⟩ := stands_run called has
  refine ⟨id, client, known, mine, ?_, ?_⟩
  · cases isOver : client.isOver with
    | false => rfl
    | true => cases (Client.unit?_of_isOver isOver).symm.trans mine
  · refine ((stands.queued row).mp member).imp_left fun got =>
      ⟨⟨unit, has, stands.held row got⟩, ?_⟩
    exact stands.single.resolve_left (by simp [got])

/-!
## Rows that are handed over
-/

private theorem posting_wakes {wanted : Posting} {phase : Posting.Phase UnitId Progress}
    {world : World Memory} (placed : phase.Placed wanted world.store)
    (owned : phase.unit? = some unit) (awaited : phase.awaited? wanted = some row)
    (held : world.store.holds unit row = true) :
    (Client.posting wanted (.ofTurn (wanted.step Memory.store phase world).1)).awaited? = none := by
  cases phase with
  | locking unit progress =>
      cases owned
      have move := wanted.step_move (.locking unit progress) world
      have mine : row = wanted.account := by
        cases progress <;> cases awaited
        rfl
      subst mine
      generalize (wanted.step Memory.store (.locking unit progress) world).1 = turn,
        (wanted.step Memory.store (.locking unit progress) world).2.store = after at move
      cases move with
      | keepsLocking locking =>
          cases locking with
          | waits deadline free => cases free.symm.trans (Memory.holds_join held _)
      | _ => rfl
  | writing unit balance progress => cases (awaited?_of_hasRow placed rfl).symm.trans awaited
  | _ => cases awaited

private theorem inquiry_wakes {asked : Inquiry} {phase : Query.Phase UnitId Progress asked.Answer}
    {world : World Memory} (placed : phase.Placed asked.account? world.store)
    (owned : phase.unit? = some unit) (awaited : phase.awaited? = some row)
    (held : world.store.holds unit row = true) :
    (Client.inquiry asked (.ofTurn (asked.query.step Memory.store phase world).1)).awaited? =
      none := by
  cases phase with
  | asking unit request next progress =>
      cases owned
      obtain ⟨got?, orderly, _, _⟩ := placed
      have locks : ∃ deadline, request = .lock row deadline := by
        cases request <;> cases progress <;> cases awaited
        · exact ⟨_, rfl⟩
        · cases orderly.1
      obtain ⟨deadline, rfl⟩ := locks
      have move := asked.query.step_move (.asking unit (.lock row deadline) next progress) world
      generalize
        (asked.query.step Memory.store (.asking unit (.lock row deadline) next progress)
          world).1 = turn,
        (asked.query.step Memory.store (.asking unit (.lock row deadline) next progress)
          world).2.store = after at move
      cases move with
      | @keepsAsking _ _ _ _ waiting left tried =>
          have locking := Memory.tryLock_locking unit row deadline world
          rw [show Memory.tryLock unit row deadline world = (.waiting waiting, left) from tried]
            at locking
          generalize left.store = after at locking
          cases locking with
          | waits deadline free => cases free.symm.trans (Memory.holds_join held _)
      | hears tried => exact awaited?_proceed _
      | fails tried => rfl
  | _ => cases awaited

private theorem wakes_run (called : ∀ deadline, .openUnit deadline ∉ actions)
    (awaited : (run actions).awaited? id = some row) (holds : (run actions).Holds id row) :
    ((run actions).perform (.proceed id)).awaited? id = none := by
  obtain ⟨unit, has, held⟩ := holds
  obtain ⟨client, known, owned⟩ := known_of_unitOf has
  rw [State.awaited?_of_known known] at awaited
  rw [State.awaited?_of_known (State.perform_proceed known).2]
  have placed := placed_run known
  cases client using Client.running_or_over with
  | posting wanted phase => exact posting_wakes placed owned awaited held
  | inquiry asked phase => exact inquiry_wakes placed owned awaited held
  | hand task => cases calls_run called id _ known
  | settled client isOver => cases (Client.unit?_of_isOver isOver).symm.trans owned

/-- At the head of a queue is a call that has the row, or whose row has been handed over. -/
private theorem head_run {head : UnitId} {others : List UnitId}
    (called : ∀ deadline, .openUnit deadline ∉ actions)
    (queue : (run actions).memory.queues row = head :: others) :
    ∃ id, (run actions).Has id row ∨
      ((run actions).awaited? id = some row ∧ (run actions).Holds id row) := by
  obtain ⟨id, client, known, owned, _, stands⟩ :=
    queued_run called (by rw [queue]; exact List.mem_cons_self)
  have held : (run actions).memory.holds head row = true :=
    Memory.holds_iff.mpr (by rw [queue]; rfl)
  exact ⟨id, stands.imp_right fun awaited =>
    ⟨awaited, head, (State.unitOf_of_known known).trans owned, held⟩⟩

/-- A row that nobody has and that no step of a waiting call would get anybody is waited for by
nobody. -/
private theorem settled_run (called : ∀ deadline, .openUnit deadline ∉ actions)
    (unhad : ∀ id, ¬ (run actions).Has id row)
    (still : ∀ id, (run actions).awaited? id = some row →
      ((run actions).perform (.proceed id)).awaited? id = some row) :
    (run actions).memory.queues row = [] := by
  cases queue : (run actions).memory.queues row with
  | nil => rfl
  | cons head others =>
      obtain ⟨id, stands⟩ := head_run called queue
      obtain ⟨awaited, holds⟩ := stands.resolve_left (unhad id)
      cases (wakes_run called awaited holds).symm.trans (still id awaited)

theorem State.clients_proceed_other {other : ClientId} (different : other ≠ id) :
    (state.perform (.proceed id)).clients other = state.clients other := by
  cases present : state.clients id with
  | none => simp only [State.perform, present]
  | some client =>
      simp only [State.perform, present]
      exact assign_other _ _ different

/-- After its step, a call that held a row has it, or it has left the queue without letting anybody
in. -/
private theorem queue_of_wakes (called : ∀ deadline, .openUnit deadline ∉ actions)
    (awaited : (run actions).awaited? id = some row) (holds : (run actions).Holds id row) :
    (run (actions ++ [.proceed id])).Has id row ∨
      (((run (actions ++ [.proceed id])).memory.queues row).toFinset ⊂
        ((run actions).memory.queues row).toFinset) := by
  have calledNext : ∀ deadline, .openUnit deadline ∉ actions ++ [.proceed id] := by
    simpa using called
  have next : run (actions ++ [.proceed id]) = (run actions).perform (.proceed id) :=
    run_append actions [.proceed id]
  have woken : (run (actions ++ [.proceed id])).awaited? id = none :=
    next ▸ wakes_run called awaited holds
  obtain ⟨unit, has, held⟩ := holds
  obtain ⟨client, known, owned⟩ := known_of_unitOf has
  have kept : ∀ other, other ≠ unit → other ∈ (run (actions ++ [.proceed id])).memory.queues row →
      other ∈ (run actions).memory.queues row := by
    intro other different member
    rw [next, State.memory, (State.perform_proceed known).1] at member
    exact ((client_effect client (run actions).world).mem_queues_other fun same =>
      different (by rw [owned] at same; cases same; rfl)).mp member
  by_cases member : unit ∈ (run (actions ++ [.proceed id])).memory.queues row
  · obtain ⟨owner, other, present, mine, _, stands⟩ := queued_run calledNext member
    have same : owner = id := by
      refine Classical.byContradiction fun different =>
        different ((owned_run actions).alone owner id unit ?_ has)
      rw [next, State.clients_proceed_other different] at present
      exact (State.unitOf_of_known present).trans mine
    subst same
    exact .inl (stands.resolve_right (by simp [woken]))
  · refine .inr
      ((Finset.ssubset_iff_of_subset fun other => ?_).mpr ⟨unit, by simpa using mem_of_holds held,
        by simpa using member⟩)
    simp only [List.mem_toFinset]
    exact fun isMember => kept other (fun same => member (same ▸ isMember)) isMember

/-- After a step of some of the calls that wait for a row, somebody has it or nobody wants it. -/
private theorem served_run (called : ∀ deadline, .openUnit deadline ∉ actions) (row : AccountId) :
    ∃ ids : List ClientId, ids.Nodup ∧ (∀ id ∈ ids, (run actions).awaited? id = some row) ∧
      ((∃ id, (run (actions ++ ids.map .proceed)).Has id row) ∨
        (run (actions ++ ids.map .proceed)).memory.queues row = []) := by
  -- The induction is on the number of units in the queue. The call at its head either gets the row
  -- or leaves the queue.
  induction size : ((run actions).memory.queues row).toFinset.card using Nat.strong_induction_on
    generalizing actions with
  | _ size ih =>
      cases queue : (run actions).memory.queues row with
      | nil => exact ⟨[], List.nodup_nil, nofun, .inr (by simpa using queue)⟩
      | cons head others =>
          obtain ⟨id, has | ⟨awaited, holds⟩⟩ := head_run called queue
          · exact ⟨[], List.nodup_nil, nofun, .inl ⟨id, by simpa using has⟩⟩
          · rcases queue_of_wakes called awaited holds with has | shorter
            · exact ⟨[id], List.nodup_singleton id, by simpa using awaited, .inl ⟨id, has⟩⟩
            · have calledNext : ∀ deadline, .openUnit deadline ∉ actions ++ [.proceed id] := by
                simpa using called
              have next : run (actions ++ [.proceed id]) = (run actions).perform (.proceed id) :=
                run_append actions [.proceed id]
              obtain ⟨ids, nodup, waiting, settled⟩ :=
                ih _ (size ▸ Finset.card_lt_card shorter) calledNext rfl
              have woken : (run (actions ++ [.proceed id])).awaited? id = none :=
                next ▸ wakes_run called awaited holds
              have fresh : id ∉ ids := fun member => by cases woken.symm.trans (waiting id member)
              refine ⟨id :: ids, List.nodup_cons.mpr ⟨fresh, nodup⟩, ?_, by simpa using settled⟩
              intro other member
              rcases List.mem_cons.mp member with rfl | later
              · exact awaited
              · have different : other ≠ id := fun same => fresh (same ▸ later)
                have still := waiting other later
                rwa [next, State.awaited?, State.clients_proceed_other different] at still

/-- In a ledger that only calls use there is no deadlock, and nobody is left waiting for a row that
nobody has. This is so at every moment, whatever fails or is delayed, and whichever calls have been
given up, have been cancelled, or are late. -/
theorem rows_deadlock_free (actions : List Action)
    (called : ∀ deadline, .openUnit deadline ∉ actions) : (run actions).Unblocked := by
  have sinks : ∀ one other, (run actions).WaitsFor one other →
      ∀ next, ¬ (run actions).WaitsFor other next := by
    rintro one other ⟨row, _, holds⟩ next ⟨awaited, waits, _⟩
    exact not_holds_of_waits called waits row holds
  refine
    { single := fun id one other => holds_single called
      waitsFree := fun id row waits => not_holds_of_waits called waits
      writes := ?writes
      holder := ?holder
      sinks
      acyclic := ?acyclic
      queued := fun row unit member => queued_run called member
      wakes := fun id row => wakes_run called
      settled := fun row => settled_run called
      served := fun row => ?served }
  case writes =>
    intro id wanted unit balance progress known
    have placed : (Posting.Phase.writing unit balance progress).Placed wanted
        (run actions).memory := placed_run known
    refine ⟨⟨unit, State.unitOf_of_known known, (placed unit rfl).held _ rfl⟩, ?_⟩
    rintro deadline rfl
    cases awaited?_of_hasRow placed rfl
  case holder =>
    intro unit row held
    obtain ⟨id, client, known, owned, running, _⟩ := queued_run called (mem_of_holds held)
    refine ⟨id, client, known, owned, running, fun other waits => ?_⟩
    exact not_holds_of_waits called waits row
      ⟨unit, (State.unitOf_of_known known).trans owned, held⟩
  case served => simpa only [run_append] using served_run called row
  case acyclic =>
    intro id cycle
    obtain ⟨next, first, _⟩ := Relation.TransGen.head'_iff.mp cycle
    obtain ⟨previous, _, last⟩ := Relation.TransGen.tail'_iff.mp cycle
    exact sinks previous id last next first

/-- A debit that waits for the row that another debit has. It waits for that one, which waits for
nobody. -/
theorem rows_deadlock_free_sample :
    (run (sampleActions.take 16)).WaitsFor ⟨3⟩ ⟨4⟩ ∧
      (∀ next, ¬ (run (sampleActions.take 16)).WaitsFor ⟨4⟩ next) := by
  have unblocked := rows_deadlock_free (sampleActions.take 16) (by simp [sampleActions])
  have waitsFor : (run (sampleActions.take 16)).WaitsFor ⟨3⟩ ⟨4⟩ := by
    refine ⟨⟨1⟩, ⟨by decide +kernel, ?_⟩, ⟨4⟩, by decide +kernel, by decide +kernel⟩
    rintro ⟨unit, has, held⟩
    have mine : (run (sampleActions.take 16)).unitOf ⟨3⟩ = some ⟨3⟩ := by decide +kernel
    cases mine.symm.trans has
    have queuedBehind : (run (sampleActions.take 16)).memory.holds ⟨3⟩ ⟨1⟩ = false := by
      decide +kernel
    cases queuedBehind.symm.trans held
  exact ⟨waitsFor, unblocked.sinks _ _ waitsFor⟩

end Passbook.Shared
