import Mathlib.Data.List.Basic
import Passbook.Proofs.Shared.Accounting
import Passbook.Proofs.Shared.Grants

/-!
The postings that the balance of their account has decided, in the order in which they got the row.
One by one they post to the account as if nothing else went on.
-/

set_option autoImplicit false

namespace Passbook

open Memory (Progress)

/-- The answers to postings that are decided one after the other, from a given balance. -/
def serial : Money → List Posting → List (Except PostingError Money)
  | _, [] => []
  | balance, posting :: later =>
      posting.judgement balance :: serial (posting.balanceAfter balance) later

/-- The balance after postings that are decided one after the other. -/
def serialBalance (balance : Money) (postings : List Posting) : Money :=
  postings.foldl Posting.balanceAfter balance

theorem serial_concat (balance : Money) (postings : List Posting) (posting : Posting) :
    serial balance (postings ++ [posting]) = serial balance postings ++
      [posting.judgement (serialBalance balance postings)] := by
  induction postings generalizing balance with
  | nil => rfl
  | cons first later ih =>
      rw [List.cons_append, serial, ih, serial, List.cons_append]
      rfl

theorem serialBalance_concat (balance : Money) (postings : List Posting) (posting : Posting) :
    serialBalance balance (postings ++ [posting]) =
      posting.balanceAfter (serialBalance balance postings) := by
  rw [serialBalance, List.foldl_append]
  rfl

namespace Shared

/-- The posting of a client with its result, if it is for an account and the balance of the account
has decided it. -/
def Client.verdict? (account : AccountId) : Client → Option Verdict
  | .posting wanted (.ended result) =>
      if wanted.account = account ∧ Posting.isDecision result = true then
        some ⟨wanted, result⟩ else none
  | _ => none

private theorem verdict?_proceed {client : Client} {world : World Memory} (account : AccountId)
    (undecided : ∀ posting phase result, client = .posting posting (.running phase) →
      (client.proceed world).1 = .posting posting (.ended result) →
      Posting.isDecision result = false) :
    (client.proceed world).1.verdict? account = client.verdict? account := by
  cases client with
  | posting posting course =>
      cases course with
      | running phase =>
          change (Client.posting posting
            (.ofTurn (posting.step Memory.store phase world).1)).verdict? account = none
          have ended : ∀ result,
              Course.ofTurn (posting.step Memory.store phase world).1 = .ended result →
              Posting.isDecision result = false := fun result ends =>
            undecided posting phase result rfl (congrArg (Client.posting posting) ends)
          generalize Course.ofTurn (posting.step Memory.store phase world).1 = course at ended
          cases course with
          | running next => rfl
          | dropped => rfl
          | ended result => simp [Client.verdict?, ended result rfl]
      | ended result => rfl
      | dropped => rfl
  | inquiry inquiry course => cases course <;> rfl
  | hand course => cases course <;> rfl

private theorem verdict?_giveUp (client : Client) (world : World Memory) (account : AccountId) :
    (client.giveUp world).1.verdict? account = client.verdict? account := by
  cases client with
  | posting posting course => cases course <;> rfl
  | inquiry inquiry course => cases course <;> rfl
  | hand course => cases course <;> rfl

namespace State

def verdict? (state : State) (account : AccountId) (id : ClientId) : Option Verdict :=
  (state.clients id).bind (Client.verdict? account)

/-- The postings that the balance of an account has decided, in the order in which they got its row.
-/
def verdicts (state : State) (account : AccountId) : List Verdict :=
  state.grants.filterMap (state.verdict? account)

/-- What a transition does to verdicts, balances and entries. -/
inductive Progression (state : State) : State → Prop
  | decides {after : State} {id : ClientId} {posting : Posting}
      {phase : Posting.Phase UnitId Progress} {result : Posting.Result}
      (known : state.clients id = some (.posting posting (.running phase)))
      (decision : Posting.isDecision result = true)
      (clients : after.clients = assign state.clients id (some (.posting posting (.ended result))))
      (decides : Decides ⟨posting, result⟩ state.memory after.memory) : Progression state after
  | keeps {after : State}
      (verdicts : ∀ account id, after.verdict? account id = state.verdict? account id)
      (keeps : state.memory.Keeps after.memory) : Progression state after

variable {state after : State} {account : AccountId} {id : ClientId}

private theorem verdict?_assign {client next : Client} (known : state.clients id = some client)
    (clients : after.clients = assign state.clients id (some next))
    (same : ∀ account, next.verdict? account = client.verdict? account) :
    ∀ account other, after.verdict? account other = state.verdict? account other := by
  intro account other
  rw [verdict?, verdict?, clients]
  by_cases mine : other = id
  · rw [mine, assign_same, known, Option.bind_some, Option.bind_some, same]
  · rw [assign_other _ _ mine]

private theorem verdict?_welcome (owned : state.Owned) {client : Client}
    (fresh : ∀ account, client.verdict? account = none) :
    ∀ account other, (state.welcome client).verdict? account other =
      state.verdict? account other := by
  intro account other
  by_cases new : other = ⟨state.lastClient + 1⟩
  · rw [new, verdict?, verdict?, owned.next_clients]
    simp [welcome, fresh]
  · simp only [verdict?, welcome, assign_other _ _ new]

theorem transition_progression (owned : state.Owned) (mild : Invariant.Everywhere Client.Mild state)
    (transition : Transition (fun request => request.isMild = true) state after) :
    Progression state after := by
  have unchanged : ∀ {memory : Memory}, memory.Keeps memory := Memory.keeps_of_tables rfl
  cases transition with
  | quiet rearmed clients count grants =>
      exact .keeps (fun account id => by rw [verdict?, verdict?, clients])
        (Memory.keeps_of_tables rearmed.tables)
  | posts posting => exact .keeps (verdict?_welcome owned fun _ => rfl) unchanged
  | inquires inquiry => exact .keeps (verdict?_welcome owned fun _ => rfl) unchanged
  | opens deadline => exact .keeps (verdict?_welcome owned fun _ => rfl) unchanged
  | @proceeds actor client known =>
      rcases proceed_decides client state.world (mild _ _ known) with
        ⟨posting, phase, result, rfl, ends, decision, decides⟩ | ⟨undecided, keeps⟩
      · refine .decides known decision ?_ decides
        exact congrArg (fun next => assign state.clients actor (some next)) ends
      · exact .keeps (verdict?_assign known rfl fun account => verdict?_proceed account undecided)
          keeps
  | givesUp known =>
      exact .keeps (verdict?_assign known rfl fun account => verdict?_giveUp _ state.world account)
        (giveUp_keeps _ state.world (mild _ _ known))
  | asks known isAllowed => exact .keeps (verdict?_assign known rfl fun _ => rfl) unchanged
  | finishes known => exact .keeps (verdict?_assign known rfl fun _ => rfl) unchanged

/-!
## Verdicts in order
-/

private theorem filterMap_of_none {α β : Type} {items : List α} {f : α → Option β}
    (none : ∀ item ∈ items, f item = none) :
    items.filterMap f = [] :=
  List.filterMap_eq_nil_iff.mpr none

theorem verdict?_of_ended {posting : Posting} {result : Posting.Result}
    (known : state.clients id = some (.posting posting (.ended result)))
    (decision : Posting.isDecision result = true) :
    state.verdict? account id = if posting.account = account then
      some ⟨posting, result⟩ else none := by
  simp [verdict?, known, Client.verdict?, decision]

private theorem verdict?_of_running {posting : Posting} {phase : Posting.Phase UnitId Progress}
    (known : state.clients id = some (.posting posting (.running phase))) :
    state.verdict? account id = none := by
  simp [verdict?, known, Client.verdict?]

theorem of_verdict? {verdict : Verdict} (found : state.verdict? account id = some verdict) :
    state.clients id = some (.posting verdict.posting (.ended verdict.result)) ∧
      verdict.posting.account = account ∧
      Posting.isDecision verdict.result = true := by
  obtain ⟨client, known, same⟩ := Option.bind_eq_some_iff.mp found
  cases client with
  | posting posting course =>
      cases course with
      | ended result =>
          simp only [Client.verdict?, Option.ite_none_right_eq_some, Option.some.injEq] at same
          obtain ⟨⟨mine, decision⟩, rfl⟩ := same
          exact ⟨known, mine, decision⟩
      | running phase => cases same
      | dropped => cases same
  | inquiry inquiry course => cases same
  | hand course => cases same

/-- The posting that is decided is the last one on its account. -/
theorem verdicts_decides (granted : state.Granted) {posting : Posting}
    {phase : Posting.Phase UnitId Progress} {result : Posting.Result}
    (known : state.clients id = some (.posting posting (.running phase)))
    (decision : Posting.isDecision result = true)
    (clients : after.clients = assign state.clients id (some (.posting posting (.ended result))))
    {gained : List ClientId} (grants : after.grants = state.grants ++ gained)
    (fresh : ∀ other ∈ gained, after.verdict? account other = none) (member : id ∈ state.grants) :
    after.verdicts account =
      state.verdicts account ++ if posting.account = account then [⟨posting, result⟩] else [] := by
  obtain ⟨earlier, later, split⟩ := List.append_of_mem member
  have nodup := granted.nodup
  have ordered := granted.ordered
  rw [split] at nodup ordered
  have now : after.clients id = some (.posting posting (.ended result)) := by
    rw [clients, assign_same]
  have same : ∀ other, other ≠ id → after.verdict? account other = state.verdict? account other :=
    fun other different => by
    rw [verdict?, verdict?, clients, assign_other _ _ different]
  have before : ∀ other ∈ earlier, other ≠ id := fun other isEarlier =>
    (List.nodup_append.mp nodup).2.2 other isEarlier id List.mem_cons_self
  have behind : ∀ other ∈ later, other ≠ id := fun other isLater equal =>
    (List.nodup_cons.mp (List.nodup_append.mp nodup).2.1).1 (equal ▸ isLater)
  -- A later posting on the same account would have got the row from one that still holds it.
  have undecided : posting.account = account →
      ∀ other ∈ later, state.verdict? account other = none := by
    intro mine other isLater
    cases found : state.verdict? account other with
    | none => rfl
    | some verdict =>
        obtain ⟨knownOther, itsAccount, _⟩ := of_verdict? found
        have precedes :=
          (List.pairwise_cons.mp (List.pairwise_append.mp ordered).2.1).1 other isLater
        have isOver := precedes _ _ _ _ known knownOther (mine.trans itsAccount.symm)
        cases isOver
  have front : earlier.filterMap (after.verdict? account) =
      earlier.filterMap (state.verdict? account) :=
    List.filterMap_congr fun other isEarlier => same other (before other isEarlier)
  have back : later.filterMap (after.verdict? account) = later.filterMap (state.verdict? account) :=
    List.filterMap_congr fun other isLater => same other (behind other isLater)
  rw [verdicts, verdicts, grants, List.filterMap_append, filterMap_of_none fresh, List.append_nil,
    split, List.filterMap_append, List.filterMap_append, front, List.filterMap_cons,
    List.filterMap_cons, verdict?_of_ended now decision, verdict?_of_running known, back]
  by_cases mine : posting.account = account
  · simp [mine, filterMap_of_none (undecided mine)]
  · simp [mine]

theorem verdicts_keeps {gained : List ClientId}
    (same : ∀ id, after.verdict? account id = state.verdict? account id)
    (grants : after.grants = state.grants ++ gained)
    (fresh : ∀ id ∈ gained, after.verdict? account id = none) :
    after.verdicts account = state.verdicts account := by
  rw [verdicts, verdicts, grants, List.filterMap_append, filterMap_of_none fresh, List.append_nil]
  exact List.filterMap_congr fun id _ => same id

/-- The answers, the balance and the entries of an account are those of its verdicts taken in order.
-/
structure Serial (state : State) (account : AccountId) : Prop where
  answers : (state.verdicts account).map (·.answer) =
    serial .zero ((state.verdicts account).map (·.posting))
  balance : state.memory.balanceOf account =
    serialBalance .zero ((state.verdicts account).map (·.posting))
  entries : (state.memory.entriesOf account).map booking =
    (state.verdicts account).filterMap (·.booked?)

theorem serial_start (account : AccountId) : Serial .start account := ⟨rfl, rfl, rfl⟩

theorem Serial.keeps (serial : state.Serial account) (keeps : state.memory.Keeps after.memory)
    (verdicts : after.verdicts account = state.verdicts account) : after.Serial account where
  answers := verdicts ▸ serial.answers
  balance := by rw [keeps.balances account, verdicts, serial.balance]
  entries := by rw [keeps.entriesOf account, verdicts, serial.entries]

theorem Serial.decides {verdict : Verdict} (serial : state.Serial account)
    (decides : Decides verdict state.memory after.memory)
    (verdicts : after.verdicts account =
      state.verdicts account ++ if verdict.posting.account = account then [verdict] else []) :
    after.Serial account := by
  by_cases mine : verdict.posting.account = account
  · have balance := decides.balance account
    have entries := decides.entries account
    have answer := decides.answer
    simp only [mine, if_true] at verdicts balance entries answer
    rw [serial.balance] at balance answer
    rw [serial.entries] at entries
    refine ⟨?_, ?_, ?_⟩
    · rw [verdicts, List.map_append, List.map_append, serial.answers, List.map_singleton,
        List.map_singleton, serial_concat, answer]
    · rw [verdicts, List.map_append, List.map_singleton, serialBalance_concat, balance]
    · rw [verdicts, List.filterMap_append, entries]
      cases booked : verdict.booked? <;> simp [booked]
  · have balance := decides.balance account
    have entries := decides.entries account
    simp only [mine, Ne.symm mine, if_false, List.append_nil] at verdicts balance entries
    exact ⟨verdicts ▸ serial.answers, by rw [balance, verdicts, serial.balance],
      by rw [entries, verdicts, serial.entries]⟩

private theorem verdict?_of_gained {gained : List ClientId} (step : RowsStep gained state after)
    (member : id ∈ gained) :
    after.verdict? account id = none := by
  obtain ⟨posting, course, known⟩ := step.known id member
  obtain ⟨next, now, row⟩ := step.forward id posting course known
  have held := (row.gains (by simpa using member)).2.2
  cases next with
  | running phase => exact verdict?_of_running now
  | ended result => cases held
  | dropped => cases held

theorem Serial.transition (serial : state.Serial account) (owned : state.Owned)
    (granted : state.Granted) (mild : Invariant.Everywhere Client.Mild state)
    (transition : Transition (fun request => request.isMild = true) state after) :
    after.Serial account := by
  have rows : ∃ gained, RowsStep gained state after := by
    rcases rowsStep_transition owned transition with step | ⟨winner, step⟩
    · exact ⟨[], step⟩
    · exact ⟨[winner], step⟩
  obtain ⟨gained, step⟩ := rows
  cases transition_progression owned mild transition with
  | keeps verdicts keeps =>
      exact serial.keeps keeps
        (verdicts_keeps (verdicts account) step.grants fun id member =>
          verdict?_of_gained step member)
  | @decides id posting phase result known decision clients decides =>
      have now : after.clients id = some (.posting posting (.ended result)) := by
        rw [clients, assign_same]
      obtain ⟨next, same, row⟩ := step.forward id posting _ known
      rw [now] at same
      cases same
      have member : id ∈ state.grants := by
        rcases row.earns decision with held | gains
        · exact granted.listed id posting _ known held
        · cases (row.gains gains).2.2
      exact serial.decides decides (verdicts_decides granted known decision clients step.grants
        (fun other gainer => verdict?_of_gained step gainer) member)

end State

/-- What is kept by the decision of a posting, and by everything that leaves balances and entries
alone, holds throughout every run in which only postings write balances and entries. -/
theorem mild_induction {property : Memory → Prop} {actions : List Action}
    (asked : Asks (fun request => request.isMild = true) actions) (empty : property .empty)
    (keeps : ∀ {memory after}, property memory → memory.Keeps after → property after)
    (decides : ∀ {verdict memory after}, property memory →
      Decides verdict memory after → property after) :
    property (run actions).memory :=
  mild_onwards (fun state => property state.memory) asked empty
    fun state after owned mild holds transition => by
    cases State.transition_progression owned mild transition with
    | decides known decision clients decided => exact decides holds decided
    | keeps verdicts kept => exact keeps holds kept

end Shared

end Passbook
