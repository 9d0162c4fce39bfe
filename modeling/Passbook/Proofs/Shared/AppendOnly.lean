import Passbook.Proofs.Shared.Commitment
import Passbook.Proofs.Shared.Coverage
import Passbook.Proofs.Shared.Integrity

/-!
The committed ledger only grows. Entries are added at the end and never touched again; accounts stay
under their numbers, with their names, and only their balances change. A balance changes by the
commit of a unit of work that has staged it and holds the row of its account.
-/

set_option autoImplicit false

namespace Passbook.Shared

open Memory (Progress Rearmed)

namespace Client

def commits? : Client → Option UnitId
  | .posting _ (.running (.committing unit _ _)) => some unit
  | .inquiry _ (.running (.committing unit _ _)) => some unit
  | .hand (.running (.finishing unit .commit _)) => some unit
  | _ => none

/-- Whether a client has got what it wanted. -/
def hasSucceeded : Client → Bool
  | .posting _ (.ended (.ok _)) => true
  | .inquiry _ (.ended (.ok _)) => true
  | .hand (.ended (.ok _)) => true
  | _ => false

/-- Whether a step of a client publishes a unit of work. -/
structure Publishes (client : Client) (world : World Memory) (unit : UnitId) : Prop where
  commits : client.commits? = some unit
  succeeds : (client.proceed world).1.hasSucceeded = true
  published : ∃ before, Rearmed world.store before ∧ before.clash? unit = none ∧
    (client.proceed world).2.store = before.publish unit

end Client

/-- Whether an action is the step by which a client commits a unit of work. -/
structure State.Commits (state : State) (id : ClientId) (unit : UnitId)
    (action : Action) : Prop where
  step : action = .proceed id
  before : ∃ client, state.clients id = some client ∧ client.commits? = some unit
  after : ∃ client, (state.perform action).clients id = some client ∧ client.hasSucceeded = true

/-!
## Steps
-/

variable {memory after : Memory} {unit : UnitId} {row : AccountId} {world : World Memory}

private theorem tables_opening {result : Poll Progress (Except StoreError UnitId)}
    (opening : Memory.Opening memory result after) : after.tables = memory.tables := by
  cases opening with
  | waits progress rearmed => exact rearmed.tables
  | opens rearmed => exact rearmed.tables
  | fails error rearmed => exact rearmed.tables

private theorem tables_tried {request : Request} {progress : Progress} {left : World Memory}
    {result : Poll Progress (Except StoreError request.Reply)}
    (tried : Memory.tryAsk unit request progress world = (result, left)) :
    left.store.tables = world.store.tables := by
  have acts := Memory.tryAsk_acts unit request progress world
  rw [tried] at acts
  exact acts.tables

private theorem ended_publishes {ending : Ending} {result : Except StoreError Unit}
    (ended : Memory.Ended unit memory ending result after) :
    after.tables = memory.tables ∨ (ending = .commit ∧ result = .ok () ∧
      ∃ before, Rearmed memory before ∧ before.clash? unit = none ∧
        after = before.publish unit) := by
  cases ended with
  | discards rearmed unpublished => exact .inl rearmed.tables
  | publishes rearmed free => exact .inr ⟨rfl, rfl, _, rearmed, free, rfl⟩

private theorem query_publishes {α : Type} {query : Query α} {phase : Query.Phase UnitId Progress α}
    {turn : Turn (Query.Phase UnitId Progress α) (Query.Result α)}
    (move : query.Move world phase turn after) :
    after.tables = world.store.tables ∨ ∃ unit answer progress before,
      phase = .committing unit answer progress ∧
      turn = .ends (.ok answer) ∧ Rearmed world.store before ∧ before.clash? unit = none ∧
        after = before.publish unit := by
  cases move with
  | keepsOpening opening => exact .inl (tables_opening opening)
  | opens opening => exact .inl (tables_opening opening)
  | failsToOpen opening => exact .inl (tables_opening opening)
  | keepsAsking tried => exact .inl (tables_tried tried)
  | hears tried => exact .inl (tables_tried tried)
  | fails tried => exact .inl (tables_tried tried)
  | keepsCommitting rearmed => exact .inl rearmed.tables
  | @commits unit answer progress _ ended =>
      obtain same | ⟨-, -, before, published⟩ := ended_publishes ended
      · exact .inl same
      · exact .inr ⟨unit, answer, progress, before, rfl, rfl, published⟩
  | failsToCommit ended =>
      obtain same | ⟨-, succeeds, -⟩ := ended_publishes ended
      · exact .inl same
      · cases succeeds
  | keepsUndoing rearmed => exact .inl rearmed.tables
  | undoes ended =>
      obtain same | ⟨isCommit, -⟩ := ended_publishes ended
      · exact .inl same
      · cases isCommit

private theorem hand_publishes {hand : Hand} {course : Course Hand Hand.Result}
    (move : hand.Move world course after) :
    after.tables = world.store.tables ∨
      ∃ unit progress before, hand = .finishing unit .commit progress ∧
      course = .ended (.ok ()) ∧ Rearmed world.store before ∧ before.clash? unit = none ∧
        after = before.publish unit := by
  cases move with
  | keepsOpening opening => exact .inl (tables_opening opening)
  | opens opening => exact .inl (tables_opening opening)
  | failsToOpen opening => exact .inl (tables_opening opening)
  | idles => exact .inl rfl
  | keepsAsking tried => exact .inl (tables_tried tried)
  | hears tried => exact .inl (tables_tried tried)
  | keepsFinishing rearmed => exact .inl rearmed.tables
  | @finishes unit ending progress result _ ended =>
      obtain same | ⟨rfl, rfl, before, published⟩ := ended_publishes ended
      · exact .inl same
      · exact .inr ⟨unit, progress, before, rfl, rfl, published⟩

/-- A step of a client leaves the committed ledger alone, unless it publishes the unit of the
client. -/
theorem Client.proceed_tables (client : Client) (world : World Memory) :
    (client.proceed world).2.store.tables = world.store.tables ∨
      ∃ unit, client.Publishes world unit := by
  cases client using Client.running_or_over with
  | posting wanted phase =>
      rcases (wanted.step_move phase world).publishes with
        ⟨unit, receipt, progress, before, rfl, ends, rearmed, free, left⟩ | ⟨-, same⟩
      · refine .inr ⟨unit, rfl, ?_, before, rearmed, free, left⟩
        simp only [Client.proceed, ends]
        rfl
      · exact .inl same
  | inquiry asked phase =>
      rcases query_publishes (asked.query.step_move phase world) with
        same | ⟨unit, answer, progress, before, rfl, ends, rearmed, free, left⟩
      · exact .inl same
      · refine .inr ⟨unit, rfl, ?_, before, rearmed, free, left⟩
        simp only [Client.proceed, ends]
        rfl
  | hand task =>
      rcases hand_publishes (task.step_move world)
        with same | ⟨unit, progress, before, rfl, ends, rearmed, free, left⟩
      · exact .inl same
      · refine .inr ⟨unit, rfl, ?_, before, rearmed, free, left⟩
        simp only [Client.proceed, ends]
        rfl
  | settled client isOver =>
      rw [Client.proceed_of_isOver isOver]
      exact .inl rfl

theorem Client.giveUp_tables (client : Client) (world : World Memory) :
    (client.giveUp world).2.store.tables = world.store.tables := by
  cases client using Client.running_or_over with
  | posting wanted phase => exact wanted.tables_giveUp phase world
  | inquiry asked phase =>
      cases phase with
      | asking unit request next progress =>
          exact (Memory.withdraw_acts unit request progress world).tables
      | _ => rfl
  | hand task =>
      cases task with
      | asking unit request progress =>
          exact (Memory.withdraw_acts unit request progress world).tables
      | _ => rfl
  | settled client isOver => rw [Client.giveUp_of_isOver isOver]

theorem State.perform_tables (state : State) (action : Action) :
    (state.perform action).memory.tables = state.memory.tables ∨
      ∃ id client unit, action = .proceed id ∧ state.clients id = some client ∧
        client.Publishes state.world unit := by
  have leaves := state.perform_leaves action
  generalize (state.perform action).memory = after at leaves ⊢
  cases leaves with
  | rearms idle rearmed => exact .inl rearmed.tables
  | @proceeds id client known =>
      rcases client.proceed_tables state.world with same | ⟨unit, publishes⟩
      · exact .inl same
      · exact .inr ⟨id, client, unit, rfl, known, publishes⟩
  | @givesUp id client known => exact .inl (client.giveUp_tables state.world)

theorem Client.Publishes.leaves {state : State} {id : ClientId} {client : Client}
    (publishes : client.Publishes state.world unit) (known : state.clients id = some client) :
    ∃ before, Rearmed state.memory before ∧ before.clash? unit = none ∧
      (state.perform (.proceed id)).memory = before.publish unit := by
  obtain ⟨before, rearmed, free, published⟩ := publishes.published
  exact ⟨before, rearmed, free,
    (congrArg World.store (State.perform_proceed known).1).trans published⟩

/-!
## What is kept
-/

/-- Whether one committed ledger contains another, but for the balances. -/
structure Extends (memory after : Memory) : Prop where
  entries : memory.entries <+: after.entries
  accounts : ∀ id account, memory.account? id = some account →
    ∃ balance, after.account? id = some { account with balance }

namespace Extends

variable {later : Memory}

theorem trans (first : Extends memory after) (second : Extends after later) :
    Extends memory later where
  entries := first.entries.trans second.entries
  accounts id account known := by
    obtain ⟨balance, next⟩ := first.accounts id account known
    exact second.accounts id { account with balance } next

theorem of_tables (same : after.tables = memory.tables) : Extends memory after where
  entries := by
    have entries : after.entries = memory.entries := congrArg Prod.snd same
    exact entries ▸ List.prefix_rfl
  accounts id account known :=
    ⟨account.balance, (Memory.account?_congr (congrArg Prod.fst same) id).trans known⟩

theorem publish (memory : Memory) (unit : UnitId) : Extends memory (memory.publish unit) where
  entries := List.prefix_append _ _
  accounts id account known := by
    refine ⟨((memory.staged unit).balances account.id).getD account.balance, ?_⟩
    rw [Memory.account?_publish, known]
    rfl

end Extends

variable {state : State} {action : Action} {id : ClientId}

theorem State.perform_extends (state : State) (action : Action) :
    Extends state.memory (state.perform action).memory := by
  rcases state.perform_tables action with same | ⟨id, client, unit, rfl, known, publishes⟩
  · exact .of_tables same
  · obtain ⟨before, rearmed, free, left⟩ := publishes.leaves known
    rw [left]
    exact (Extends.of_tables rearmed.tables).trans (.publish before unit)

theorem extends_onwards (earlier later : List Action) :
    Extends (run earlier).memory (run (earlier ++ later)).memory := by
  refine perform_onwards (fun state => Extends (run earlier).memory state.memory)
    (.of_tables rfl) ?_ later
  exact fun state _ extended action => extended.trans (state.perform_extends action)

/-!
## Balances
-/

theorem Client.unit?_of_commits {client : Client} (commits : client.commits? = some unit) :
    client.unit? = some unit := by
  cases client using Client.running_or_over with
  | posting wanted phase =>
      cases phase with
      | committing unit receipt progress => exact commits
      | _ => cases commits
  | inquiry asked phase =>
      cases phase with
      | committing unit answer progress => exact commits
      | _ => cases commits
  | hand task =>
      cases task with
      | finishing unit ending progress =>
          cases ending with
          | commit => exact commits
          | rollback => cases commits
      | _ => cases commits
  | settled client isOver =>
      cases client with
      | posting wanted course => cases course <;> first | cases commits | cases isOver
      | inquiry asked course => cases course <;> first | cases commits | cases isOver
      | hand course => cases course <;> first | cases commits | cases isOver

theorem Client.Publishes.of_proceed {client : Client}
    (publishes : client.Publishes state.world unit) (known : state.clients id = some client) :
    state.Commits id unit (.proceed id) :=
  ⟨rfl, ⟨client, known, publishes.commits⟩,
    ⟨_, (State.perform_proceed known).2, publishes.succeeds⟩⟩

/-- A committed balance is changed by nothing but the commit of a unit that has staged the new one,
and holds the row. -/
private theorem changed_by_commit {account next : Account}
    (careful : Invariant.Everywhere Client.Careful state)
    (known : state.memory.account? row = some account)
    (now : (state.perform action).memory.account? row = some next)
    (changed : next.balance ≠ account.balance) :
    ∃ id unit, state.Commits id unit action ∧
      (state.memory.staged unit).balances row = some next.balance ∧
      state.memory.holds unit row = true := by
  rcases state.perform_tables action with same | ⟨id, client, unit, rfl, present, publishes⟩
  · rw [Memory.account?_congr (congrArg Prod.fst same) row, known] at now
    cases now
    exact absurd rfl changed
  · obtain ⟨before, rearmed, free, left⟩ := publishes.leaves present
    have staged := rearmed.staged unit
    have number : account.id = row := Memory.id_of_find? known
    rw [left, Memory.account?_publish, Memory.account?_congr rearmed.accounts row, known, staged]
      at now
    have overlaid : (state.memory.staged unit).overlay account = next := Option.some.inj now
    refine ⟨id, unit, publishes.of_proceed present, ?_⟩
    cases written : (state.memory.staged unit).balances row with
    | none =>
        refine absurd ?_ changed
        rw [← overlaid, Staged.overlay, number, written]
        rfl
    | some balance =>
        have isNew : next.balance = balance := by
          rw [← overlaid, Staged.overlay, number, written]
          rfl
        have owns := Client.unit?_of_commits publishes.commits
        exact ⟨congrArg some isNew.symm,
          (careful id client present).rows owns row (by rw [written]; exact Option.some_ne_none _)⟩

private theorem holds_of_staged (actions : List Action)
    (staged : ((run actions).memory.staged unit).balances row ≠ none) :
    (run actions).memory.holds unit row = true := by
  have isOpen : (run actions).memory.units unit ≠ none := by
    intro closed
    rw [Memory.staged, closed] at staged
    exact staged rfl
  obtain ⟨id, has⟩ := (owned_run actions).owner unit isOpen
  cases known : (run actions).clients id with
  | none =>
      rw [State.unitOf, known] at has
      cases has
  | some client =>
      rw [State.unitOf, known] at has
      exact (careful_clients.run (asks_anything actions) id client known).rows has row staged

/-- What two moments of a run, and all moments between them, say about the history of a ledger. -/
structure AppendOnly (earlier later : List Action) : Prop where
  entries : (run earlier).memory.entries <+: (run (earlier ++ later)).memory.entries
  accounts : ∀ account ∈ (run earlier).memory.accounts,
    ∃ balance, (run (earlier ++ later)).memory.account? account.id = some { account with balance }
  /-- A balance that changes in between was staged by a unit of work that is committed by just this
  action, and that holds the row. -/
  balances : ∀ between action, between ++ [action] <+: later → ∀ row account next,
    (run (earlier ++ between)).memory.account? row = some account →
    (run (earlier ++ between ++ [action])).memory.account? row = some next →
      next.balance ≠ account.balance →
    ∃ id unit, (run (earlier ++ between)).Commits id unit action ∧
      ((run (earlier ++ between)).memory.staged unit).balances row = some next.balance ∧
      (run (earlier ++ between)).memory.holds unit row = true
  /-- From the moment in which a unit stages a balance it holds the row, as long as the balance is
  staged. -/
  rows : ∀ moment, moment <+: earlier ++ later →
    ∀ unit row, ((run moment).memory.staged unit).balances row ≠ none →
    (run moment).memory.holds unit row = true

/-- Between any two moments of any run, the committed ledger only grows. -/
theorem history_append_only (earlier later : List Action) : AppendOnly earlier later := by
  have extended := extends_onwards earlier later
  refine ⟨extended.entries,
    fun account member => ?_, ?_, fun moment _ unit row staged => holds_of_staged moment staged⟩
  · exact extended.accounts account.id account ((owned_run earlier).sound.account?_of_mem member)
  · intro between action _ row account next known now changed
    have stepped : run (earlier ++ between ++ [action]) =
        (run (earlier ++ between)).perform action := run_append _ [action]
    rw [stepped] at now
    exact changed_by_commit (careful_clients.run (asks_anything _)) known now changed

end Passbook.Shared
