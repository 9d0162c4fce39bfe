import Passbook.Proofs.Shared.Verdicts

/-!
Postings on one account are linearizable. Whatever else goes on, the answers are those that the
rules of the ledger give if the postings are made one after the other in the order in which they got
the row of the account.
-/

set_option autoImplicit false

namespace Passbook.Shared

open Memory (Progress)

namespace State

/-- The postings that the balance of an account has decided, in the order in which they got its row.
-/
def order (state : State) (account : AccountId) : List ClientId :=
  state.grants.filter fun id => (state.verdict? account id).isSome

/-- Whether a client is a posting that is over. -/
def isOver (state : State) (id : ClientId) : Prop :=
  ∃ posting course, state.clients id = some (.posting posting course) ∧ course.isOver = true

/-- Whether a client has arrived and has been tried once at least, as far as it is a posting. -/
def hasBegun (state : State) (id : ClientId) : Prop :=
  ∃ client, state.clients id = some client ∧
    ∀ posting, client ≠ .posting posting (.running (.opening .fresh))

end State

/-- What it means that postings on an account are linearizable in a run. -/
structure Linearizable (actions : List Action) (account : AccountId) : Prop where
  nodup : ((run actions).order account).Nodup
  complete : ∀ id, id ∈ (run actions).order account ↔ ∃ posting result,
    (run actions).clients id = some (.posting posting (.ended result)) ∧ posting.account = account ∧
      Posting.isDecision result = true
  verdicts : ((run actions).order account).map (run actions).clients =
    ((run actions).verdicts account).map fun verdict =>
      some (.posting verdict.posting (.ended verdict.result))
  answers : ((run actions).verdicts account).map (·.answer) =
    serial .zero (((run actions).verdicts account).map (·.posting))
  entries : ((run actions).memory.entriesOf account).map booking =
    ((run actions).verdicts account).filterMap (·.booked?)
  realTime : ∀ earlier, earlier <+: actions → ∀ first ∈ (run actions).order account,
    ∀ second ∈ (run actions).order account, (run earlier).isOver first →
      ¬ (run earlier).hasBegun second →
      List.Sublist [first, second] ((run actions).order account)

variable {state after : State} {account : AccountId} {id : ClientId} {actions : List Action}

theorem serial_run (asked : Asks (fun request => request.isMild = true) actions)
    (account : AccountId) :
    (run actions).Serial account := by
  rw [← List.nil_append actions]
  have everything := run_onwards
    (fun state => state.Serial account ∧ state.Granted ∧ Invariant.Everywhere Client.Mild state)
    asked
    (⟨State.serial_start account, State.granted_start,
      mild_clients.run (fun _ _ member => by cases member)⟩ :
      (run []).Serial account ∧ _) fun state after owned holds transition =>
        have mild := mild_clients.transition owned holds.2.2 transition
        ⟨holds.1.transition owned holds.2.1 holds.2.2 transition,
          holds.2.1.transition owned (fun id client known => (mild id client known).fits)
            transition, mild⟩
  exact everything.1

/-!
## Real time
-/

private theorem grants_onwards (earlier later : List Action) :
    (run earlier).grants <+: (run (earlier ++ later)).grants := by
  refine run_onwards (fun state => (run earlier).grants <+: state.grants)
    (asks_anything later) List.prefix_rfl ?_
  intro state after owned grown transition
  have grows : state.grants <+: after.grants := by
    rcases rowsStep_transition owned transition with step | ⟨winner, step⟩ <;>
      exact ⟨_, step.grants.symm⟩
  exact grown.trans grows

private theorem over_onwards {earlier : List Action} (later : List Action) {posting : Posting}
    {course : Course (Posting.Phase UnitId Progress) Posting.Result}
    (known : (run earlier).clients id = some (.posting posting course))
    (isOver : course.isOver = true) :
    (run (earlier ++ later)).clients id = some (.posting posting course) := by
  refine run_onwards (fun state => state.clients id = some (.posting posting course))
    (asks_anything later) known ?_
  intro state after owned known transition
  have stays : ∀ {gained}, RowsStep gained state after →
      after.clients id = some (.posting posting course) := by
    intro gained step
    obtain ⟨next, now, row⟩ := step.forward id posting course known
    rwa [row.stays isOver] at now
  rcases rowsStep_transition owned transition with step | ⟨winner, step⟩ <;> exact stays step

private theorem hasBegun_of_grants (granted : state.Granted) (member : id ∈ state.grants) :
    state.hasBegun id := by
  obtain ⟨posting, course, known, status⟩ := granted.granted id member
  refine ⟨_, known, fun other same => ?_⟩
  cases same
  rcases status with isOver | held
  · cases isOver
  · cases held

theorem mem_order : id ∈ state.order account ↔ id ∈ state.grants ∧ ∃ posting result,
    state.clients id = some (.posting posting (.ended result)) ∧ posting.account = account ∧
      Posting.isDecision result = true := by
  rw [State.order, List.mem_filter]
  refine and_congr_right fun member => ⟨fun decided => ?_, fun decided => ?_⟩
  · obtain ⟨verdict, found⟩ := Option.isSome_iff_exists.mp decided
    obtain ⟨known, mine, decision⟩ := State.of_verdict? found
    exact ⟨_, _, known, mine, decision⟩
  · obtain ⟨posting, result, known, mine, decision⟩ := decided
    rw [State.verdict?_of_ended known decision, if_pos mine]
    rfl

/-- If one posting is over before another begins, it comes first. -/
private theorem order_realTime {earlier : List Action} (happened : earlier <+: actions)
    {first second : ClientId} (isFirst : first ∈ (run actions).order account)
    (isSecond : second ∈ (run actions).order account) (isOver : (run earlier).isOver first)
    (fresh : ¬ (run earlier).hasBegun second) :
    List.Sublist [first, second] ((run actions).order account) := by
  obtain ⟨later, rfl⟩ := happened
  obtain ⟨posting, course, known, isOver⟩ := isOver
  obtain ⟨more, grown⟩ := grants_onwards earlier later
  have early : first ∈ (run earlier).grants := by
    obtain ⟨_, wanted, result, ended, _, decision⟩ := mem_order.mp isFirst
    have still := over_onwards later known isOver
    rw [ended] at still
    cases still
    exact (granted_run earlier).listed first _ _ known decision
  have late : second ∈ more := by
    have member := (mem_order.mp isSecond).1
    rw [← grown, List.mem_append] at member
    exact member.resolve_left fun old => fresh (hasBegun_of_grants (granted_run earlier) old)
  have both : List.Sublist [first, second] (run (earlier ++ later)).grants := by
    rw [← grown]
    exact (List.singleton_sublist.mpr early).append (List.singleton_sublist.mpr late)
  have kept := both.filter fun id => ((run (earlier ++ later)).verdict? account id).isSome
  rwa [List.filter_eq_self.mpr] at kept
  intro id member
  rw [List.mem_pair] at member
  rcases member with rfl | rfl
  · exact (List.mem_filter.mp isFirst).2
  · exact (List.mem_filter.mp isSecond).2

private theorem map_order (state : State) (account : AccountId) (ids : List ClientId) :
    (ids.filter fun id => (state.verdict? account id).isSome).map state.clients =
      (ids.filterMap (state.verdict? account)).map fun verdict =>
        some (.posting verdict.posting (.ended verdict.result)) := by
  induction ids with
  | nil => rfl
  | cons id later ih =>
      cases found : state.verdict? account id with
      | none => simp [found, ih]
      | some verdict => simp [found, ih, (State.of_verdict? found).1]

/-- Whatever else happens, postings on one account are linearizable, as long as only postings write
balances and entries. -/
theorem postings_linearizable (actions : List Action) (account : AccountId)
    (asked : Asks (fun request => request.isMild = true) actions) :
    Linearizable actions account where
  nodup := (granted_run actions).nodup.filter _
  complete id := by
    refine ⟨fun member => (mem_order.mp member).2, fun decided => mem_order.mpr ⟨?_, decided⟩⟩
    obtain ⟨posting, result, known, _, decision⟩ := decided
    exact (granted_run actions).listed id posting _ known decision
  verdicts := map_order (run actions) account (run actions).grants
  answers := (serial_run asked account).answers
  entries := (serial_run asked account).entries
  realTime earlier happened first isFirst second isSecond isOver fresh :=
    order_realTime happened isFirst isSecond isOver fresh

theorem postings_linearizable_sample :
    (run sampleActions).order ⟨1⟩ = [⟨2⟩, ⟨4⟩, ⟨3⟩] ∧ Linearizable sampleActions ⟨1⟩ :=
  ⟨by decide +kernel, postings_linearizable sampleActions ⟨1⟩ asks_sample⟩

end Passbook.Shared
