import Passbook.Proofs.Shared.Judgement

/-!
The order in which postings get the rows of their accounts. A posting gets its row once at most, and
another posting gets the same row only when the first one is over.
-/

set_option autoImplicit false

namespace Passbook

open Memory (Progress)

namespace Shared

/-- Whether a posting holds the row of its account. -/
def Course.hasRow : Course (Posting.Phase UnitId Progress) Posting.Result → Bool
  | .running phase => phase.hasRow
  | _ => false

/-- Whether it can be seen from a posting that it got the row of its account. -/
def Course.wasGranted : Course (Posting.Phase UnitId Progress) Posting.Result → Bool
  | .running phase => phase.hasRow
  | .ended result => Posting.isDecision result
  | .dropped => false

/-- What a step of a posting does with its row. -/
structure RowStep (gains : Bool)
    (course next : Course (Posting.Phase UnitId Progress) Posting.Result) : Prop where
  stays : course.isOver = true → next = course
  keeps : course.hasRow = true → next.isOver = true ∨ next.hasRow = true
  earns : next.wasGranted = true → course.wasGranted = true ∨ gains = true
  gains : gains = true → course.isOver = false ∧ course.hasRow = false ∧ next.hasRow = true

variable {posting : Posting} {memory after : Memory} {unit : UnitId}

theorem holds_of_hasRow {phase : Posting.Phase UnitId Progress} (fits : phase.Fits posting memory)
    (row : phase.hasRow = true) :
    ∃ unit, phase.unit? = some unit ∧ memory.holds unit posting.account = true := by
  cases phase with
  | opening progress => cases row
  | locking unit progress => cases row
  | writing unit balance progress => exact ⟨unit, rfl, fits.2.held⟩
  | appending unit balance progress => exact ⟨unit, rfl, fits.2.held⟩
  | committing unit receipt progress => exact ⟨unit, rfl, fits.2.held⟩
  | undoing unit cause progress =>
      rcases fits with ⟨missed, known⟩ | ⟨held, known⟩
      · simp [Posting.Phase.hasRow, missed] at row
      · exact ⟨unit, rfl, held⟩

/-- A posting that waits for its row has it after a step exactly if the step shows it. -/
theorem holds_of_locking {progress : Progress}
    {turn : Turn (Posting.Phase UnitId Progress) Posting.Result}
    (move : Posting.Move posting memory (.locking unit progress) turn after) :
    after.holds unit posting.account = (Course.ofTurn turn).hasRow ∧
      (Course.ofTurn turn).wasGranted = (Course.ofTurn turn).hasRow := by
  cases move with
  | keepsLocking locking =>
      cases locking with
      | waits deadline free => exact ⟨free, rfl⟩
  | accepts locking posted =>
      cases locking with
      | locks held seen => exact ⟨held, rfl⟩
  | refuses locking posted =>
      cases locking with
      | locks held seen =>
          refine ⟨held.trans ?_, rfl⟩
          simp [Course.ofTurn, Course.hasRow, Posting.Phase.hasRow, kind_ofRefusal]
  | misses locking =>
      cases locking with
      | misses held unseen => exact ⟨Memory.not_holds_leave _ _ _, rfl⟩
  | timesOut locking => exact ⟨Memory.not_holds_discard _ _ _, rfl⟩
  | interrupted stage interruption owned early withdrawn =>
      cases owned
      refine ⟨Memory.not_holds_discard _ _ _, ?_⟩
      cases interruption <;> rfl

private theorem row_of_move {phase : Posting.Phase UnitId Progress}
    {turn : Turn (Posting.Phase UnitId Progress) Posting.Result}
    (move : Posting.Move posting memory phase turn after)
    (elsewhere : ∀ unit progress, phase ≠ .locking unit progress) :
    (phase.hasRow = true → (Course.ofTurn turn).isOver = true ∨
      (Course.ofTurn turn).hasRow = true) ∧
      ((Course.ofTurn turn).wasGranted = true → phase.hasRow = true) := by
  cases move with
  | keepsOpening opening =>
      constructor
      · intro row
        cases row
      · intro granted
        cases granted
  | opens opening =>
      constructor
      · intro row
        cases row
      · intro granted
        cases granted
  | failsToOpen opening =>
      constructor
      · intro row
        cases row
      · intro granted
        simp [Course.ofTurn, Course.wasGranted, Posting.isDecision, ofStore_isRefusal] at granted
  | interruptedOpening interruption =>
      constructor
      · intro row
        cases row
      · intro granted
        cases interruption <;> cases granted
  | keepsLocking locking => exact absurd rfl (elsewhere _ _)
  | accepts locking posted => exact absurd rfl (elsewhere _ _)
  | refuses locking posted => exact absurd rfl (elsewhere _ _)
  | misses locking => exact absurd rfl (elsewhere _ _)
  | timesOut locking => exact absurd rfl (elsewhere _ _)
  | keepsWriting setting => exact ⟨fun _ => .inr rfl, fun _ => rfl⟩
  | writes setting => exact ⟨fun _ => .inr rfl, fun _ => rfl⟩
  | failsToWrite setting => exact ⟨fun _ => .inr rfl, fun _ => rfl⟩
  | keepsAppending appending => exact ⟨fun _ => .inr rfl, fun _ => rfl⟩
  | appends appending => exact ⟨fun _ => .inr rfl, fun _ => rfl⟩
  | appendsTooLate interruption appending => exact ⟨fun _ => .inl rfl, fun _ => rfl⟩
  | failsToAppend appending => exact ⟨fun _ => .inr rfl, fun _ => rfl⟩
  | interrupted stage interruption owned early withdrawn =>
      refine ⟨fun _ => .inl rfl, fun granted => ?_⟩
      cases interruption <;> cases granted
  | keepsCommitting committing => exact ⟨fun _ => .inr rfl, fun _ => rfl⟩
  | commits committing => exact ⟨fun _ => .inl rfl, fun _ => rfl⟩
  | failsToCommit committing => exact ⟨fun _ => .inl rfl, fun _ => rfl⟩
  | keepsUndoing rollingBack => exact ⟨.inr, fun row => row⟩
  | undoes rollingBack =>
      refine ⟨fun _ => .inl rfl, fun refused => ?_⟩
      simpa [Posting.Phase.hasRow] using PostingError.kind_of_isRefusal refused

private theorem hasRow_of_gainsRow {phase : Posting.Phase UnitId Progress} {world : World Memory}
    (gains : (Client.posting posting (.running phase)).gainsRow world = true) :
    ∃ unit progress, phase = .locking unit progress ∧
      world.store.holds unit posting.account = true := by
  cases phase with
  | locking unit progress => exact ⟨unit, progress, rfl, gains⟩
  | opening progress => cases gains
  | writing unit balance progress => cases gains
  | appending unit balance progress => cases gains
  | committing unit receipt progress => cases gains
  | undoing unit cause progress => cases gains

theorem rowStep_proceed (posting : Posting)
    (course : Course (Posting.Phase UnitId Progress) Posting.Result) (world : World Memory) :
    ∃ next, ((Client.posting posting course).proceed world).1 = .posting posting next ∧
      RowStep ((Client.posting posting course).gainsRow
        ((Client.posting posting course).proceed world).2) course next := by
  cases course with
  | ended result => exact ⟨_, rfl, fun _ => rfl, nofun, .inl, nofun⟩
  | dropped => exact ⟨_, rfl, fun _ => rfl, nofun, .inl, nofun⟩
  | running phase =>
      refine ⟨.ofTurn (posting.step Memory.store phase world).1, rfl, ?_⟩
      change RowStep
        ((Client.posting posting (.running phase)).gainsRow
          (posting.step Memory.store phase world).2) _ _
      have move := posting.step_move phase world
      generalize (posting.step Memory.store phase world).1 = turn at move
      generalize (posting.step Memory.store phase world).2 = left at move
      by_cases locking : ∃ unit progress, phase = .locking unit progress
      · obtain ⟨unit, progress, rfl⟩ := locking
        obtain ⟨held, granted⟩ := holds_of_locking move
        refine ⟨nofun, nofun, fun earned => .inr ?_, fun gained => ⟨rfl, rfl, ?_⟩⟩
        · exact held.trans (granted.symm.trans earned)
        · exact held.symm.trans gained
      · have elsewhere : ∀ unit progress, phase ≠ .locking unit progress :=
          fun unit progress same =>
          locking ⟨unit, progress, same⟩
        obtain ⟨keeps, earns⟩ := row_of_move move elsewhere
        refine ⟨nofun, keeps, fun granted => .inl (earns granted), fun gained => ?_⟩
        obtain ⟨unit, progress, same, held⟩ := hasRow_of_gainsRow gained
        exact absurd same (elsewhere unit progress)

theorem rowStep_giveUp (posting : Posting)
    (course : Course (Posting.Phase UnitId Progress) Posting.Result) (world : World Memory) :
    ∃ next, ((Client.posting posting course).giveUp world).1 = .posting posting next ∧
      RowStep false course next := by
  cases course with
  | ended result => exact ⟨_, rfl, fun _ => rfl, nofun, .inl, nofun⟩
  | dropped => exact ⟨_, rfl, fun _ => rfl, nofun, .inl, nofun⟩
  | running phase => exact ⟨.dropped, rfl, nofun, fun _ => .inl rfl, nofun, nofun⟩

/-!
## Steps of all clients
-/

theorem RowStep.status {gains : Bool}
    {course next : Course (Posting.Phase UnitId Progress) Posting.Result}
    (row : RowStep gains course next) (status : course.isOver = true ∨ course.hasRow = true) :
    next.isOver = true ∨ next.hasRow = true := by
  rcases status with isOver | held
  · rw [row.stays isOver]
    exact .inl isOver
  · exact row.keeps held

theorem RowStep.refl (course : Course (Posting.Phase UnitId Progress) Posting.Result) :
    RowStep false course course :=
  ⟨fun _ => rfl, .inr, .inl, nofun⟩

/-- What a transition does with the rows of all postings, if the given ones get theirs. -/
structure RowsStep (gained : List ClientId) (state after : State) : Prop where
  grants : after.grants = state.grants ++ gained
  forward : ∀ id posting course, state.clients id = some (.posting posting course) →
    ∃ next, after.clients id = some (.posting posting next) ∧
      RowStep (decide (id ∈ gained)) course next
  backward : ∀ id posting next, after.clients id = some (.posting posting next) →
    (∃ course, state.clients id = some (.posting posting course)) ∨
      next = .running (.opening .fresh)
  known : ∀ id ∈ gained, ∃ posting course, state.clients id = some (.posting posting course)

variable {state after : State} {id actor : ClientId}

private theorem rowsStep_arrives (owned : state.Owned) {client : Client}
    (fresh : ∀ posting course, client = .posting posting course →
      course = .running (.opening .fresh)) :
    RowsStep [] state (state.welcome client) where
  grants := (List.append_nil _).symm
  forward id posting course known := ⟨course, owned.clients_welcome known client, .refl course⟩
  backward id posting next known := by
    by_cases same : id = ⟨state.lastClient + 1⟩
    · simp only [same, State.welcome, assign_same] at known
      exact .inr (fresh posting next (Option.some.inj known))
    · simp only [State.welcome, assign_other _ _ same] at known
      exact .inl ⟨next, known⟩
  known id member := by cases member

private theorem rowsStep_steps {client : Client} (next : Client) {gains : Bool}
    (known : state.clients actor = some client)
    (clients : after.clients = assign state.clients actor (some next))
    (wants : next.posting? = client.posting?)
    (grants : after.grants = if gains then state.grants ++ [actor] else state.grants)
    (step : ∀ posting course, client = .posting posting course →
      ∃ course', next = .posting posting course' ∧ RowStep gains course course')
    (gainer : gains = true → ∃ posting course, client = .posting posting course) :
    RowsStep (if gains then [actor] else []) state after where
  grants := by
    rw [grants]
    cases gains <;> simp
  forward id posting course found := by
    by_cases same : id = actor
    · rw [same, known] at found
      obtain ⟨course', rfl, row⟩ := step posting course (Option.some.inj found)
      refine ⟨course', by rw [clients, same, assign_same], ?_⟩
      cases gains with
      | true => simpa [same] using row
      | false => simpa using row
    · refine ⟨course, by rw [clients, assign_other _ _ same, found], ?_⟩
      have other : decide (id ∈ if gains then [actor] else []) = false := by
        cases gains <;> simp [same]
      rw [other]
      exact .refl course
  backward id posting course found := by
    by_cases same : id = actor
    · rw [clients, same, assign_same] at found
      rw [Option.some.inj found] at wants
      cases client with
      | posting wanted course' =>
          cases wants
          exact .inl ⟨course', same ▸ known⟩
      | inquiry inquiry course => cases wants
      | hand course => cases wants
    · rw [clients, assign_other _ _ same] at found
      exact .inl ⟨course, found⟩
  known id member := by
    cases gains with
    | false => cases member
    | true =>
        obtain ⟨posting, course, rfl⟩ := gainer rfl
        rw [List.mem_singleton.mp member]
        exact ⟨posting, course, known⟩

/-- At most one posting gets its row in a transition. -/
theorem rowsStep_transition {allowed : Request → Prop} (owned : state.Owned)
    (transition : State.Transition allowed state after) :
    RowsStep [] state after ∨ ∃ id, RowsStep [id] state after := by
  cases transition with
  | quiet rearmed clients count grants =>
      refine .inl ⟨grants.trans (List.append_nil _).symm,
        fun id posting course known => ?_, fun id posting next known => ?_, nofun⟩
      · exact ⟨course, by rw [clients, known], .refl course⟩
      · rw [clients] at known
        exact .inl ⟨next, known⟩
  | posts posting => exact .inl (rowsStep_arrives owned fun _ _ same => by cases same; rfl)
  | inquires inquiry => exact .inl (rowsStep_arrives owned fun _ _ same => by cases same)
  | opens deadline => exact .inl (rowsStep_arrives owned fun _ _ same => by cases same)
  | @proceeds actor client known =>
      have gainer : client.gainsRow (client.proceed state.world).2 = true →
          ∃ posting course, client = .posting posting course := by
        intro gains
        cases client with
        | posting posting course => exact ⟨posting, course, rfl⟩
        | inquiry inquiry course => cases gains
        | hand course => cases gains
      have steps : RowsStep (if client.gainsRow (client.proceed state.world).2 then [actor] else [])
        state { state.settle actor (client.proceed state.world) with
            grants := if client.gainsRow (client.proceed state.world).2 then state.grants ++ [actor]
              else state.grants } :=
        rowsStep_steps _ known rfl (client.posting?_proceed state.world) rfl
          (fun posting course same => by
          subst same
          exact rowStep_proceed posting course state.world) gainer
      cases gains : client.gainsRow (client.proceed state.world).2 with
      | true =>
          simp only [gains, if_true] at steps ⊢
          exact .inr ⟨actor, steps⟩
      | false =>
          simp only [gains, Bool.false_eq_true, if_false] at steps ⊢
          exact .inl steps
  | @givesUp actor client known =>
      have steps : RowsStep (if false then [actor] else []) state
          (state.settle actor (client.giveUp state.world)) :=
        rowsStep_steps _ known rfl (client.posting?_giveUp state.world) rfl
          (fun posting course same => by
          subst same
          exact rowStep_giveUp posting course state.world) nofun
      exact .inl steps
  | @asks actor unit last request known isAllowed =>
      refine .inl ?_
      change RowsStep (if false then [actor] else []) state _
      exact rowsStep_steps (.hand (.running (.asking unit request .fresh))) known rfl rfl rfl
        (fun posting course same => by cases same) nofun
  | @finishes actor unit last ending known =>
      refine .inl ?_
      change RowsStep (if false then [actor] else []) state _
      exact rowsStep_steps (.hand (.running (.finishing unit ending .fresh))) known rfl rfl rfl
        (fun posting course same => by cases same) nofun

/-!
## The order of grants
-/

namespace State

/-- Whether the first of two postings is over, if both are for the same account. -/
def Precedes (state : State) (first second : ClientId) : Prop :=
  ∀ one another course other, state.clients first = some (.posting one course) →
    state.clients second = some (.posting another other) → one.account = another.account →
      course.isOver = true

/-- What holds of the list of grants: it names the postings that have got their rows, each once, and
of two for the same account the first is over. -/
structure Granted (state : State) : Prop where
  nodup : state.grants.Nodup
  granted : ∀ id ∈ state.grants, ∃ posting course, state.clients id =
    some (.posting posting course) ∧
    (course.isOver = true ∨ course.hasRow = true)
  listed : ∀ id posting course, state.clients id = some (.posting posting course) →
    course.wasGranted = true →
    id ∈ state.grants
  ordered : state.grants.Pairwise state.Precedes

theorem granted_start : Granted .start where
  nodup := .nil
  granted id member := by cases member
  listed id posting course known := by cases known
  ordered := .nil

private theorem fresh_of_gained {gained : List ClientId} (granted : state.Granted)
    (step : RowsStep gained state after) (member : id ∈ gained) : id ∉ state.grants := by
  intro old
  obtain ⟨posting, course, known⟩ := step.known id member
  obtain ⟨wanted, same, found, status⟩ := granted.granted id old
  obtain ⟨next, now, row⟩ := step.forward id posting course known
  obtain ⟨running, without, _⟩ := row.gains (by simpa using member)
  rw [known] at found
  cases found
  simp [running, without] at status

private theorem precedes_of_step {gained : List ClientId} {first second : ClientId}
    (granted : state.Granted) (step : RowsStep gained state after)
    (firstMember : first ∈ state.grants) (secondMember : second ∈ state.grants)
    (precedes : state.Precedes first second) : after.Precedes first second := by
  intro one another course other isFirst isSecond same
  obtain ⟨posting, before, known, _⟩ := granted.granted first firstMember
  obtain ⟨posting', before', known', _⟩ := granted.granted second secondMember
  obtain ⟨next, now, row⟩ := step.forward first posting before known
  obtain ⟨next', now', _⟩ := step.forward second posting' before' known'
  rw [now] at isFirst
  rw [now'] at isSecond
  cases isFirst
  cases isSecond
  have isOver := precedes _ _ _ _ known known' same
  rw [row.stays isOver]
  exact isOver

theorem Granted.step {gained : List ClientId} (granted : state.Granted)
    (step : RowsStep gained state after) (single : gained.Pairwise after.Precedes)
    (nodup : gained.Nodup)
    (cross : ∀ first ∈ state.grants, ∀ second ∈ gained, after.Precedes first second) :
    after.Granted where
  nodup := by
    rw [step.grants]
    refine List.nodup_append.mpr ⟨granted.nodup, nodup, fun first old second new same => ?_⟩
    exact fresh_of_gained granted step new (same ▸ old)
  granted id member := by
    rw [step.grants, List.mem_append] at member
    rcases member with old | new
    · obtain ⟨posting, course, known, status⟩ := granted.granted id old
      obtain ⟨next, now, row⟩ := step.forward id posting course known
      exact ⟨posting, next, now, row.status status⟩
    · obtain ⟨posting, course, known⟩ := step.known id new
      obtain ⟨next, now, row⟩ := step.forward id posting course known
      exact ⟨posting, next, now, .inr (row.gains (by simpa using new)).2.2⟩
  listed id posting next now earned := by
    rw [step.grants, List.mem_append]
    rcases step.backward id posting next now with ⟨course, known⟩ | fresh
    · obtain ⟨next', now', row⟩ := step.forward id posting course known
      rw [now] at now'
      cases now'
      rcases row.earns earned with before | gains
      · exact .inl (granted.listed id posting course known before)
      · exact .inr (by simpa using gains)
    · rw [fresh] at earned
      cases earned
  ordered := by
    rw [step.grants]
    refine List.pairwise_append.mpr ⟨?_, single, cross⟩
    exact granted.ordered.imp_of_mem fun firstMember secondMember precedes =>
      precedes_of_step granted step firstMember secondMember precedes

/-- A posting that holds a row and one that is not over do not want the same account, unless they
are the same posting. -/
private theorem same_of_rows {first second : ClientId} {one another : Posting}
    {course other : Course (Posting.Phase UnitId Progress) Posting.Result} (owned : state.Owned)
    (fits : Invariant.Everywhere Client.Fits state)
    (isFirst : state.clients first = some (.posting one course))
    (isSecond : state.clients second = some (.posting another other)) (row : course.hasRow = true)
    (otherRow : other.hasRow = true) (same : one.account = another.account) : first = second := by
  cases course with
  | ended result => cases row
  | dropped => cases row
  | running phase =>
      cases other with
      | ended result => cases otherRow
      | dropped => cases otherRow
      | running otherPhase =>
          obtain ⟨unit, has, held⟩ := holds_of_hasRow (fits first _ isFirst) row
          obtain ⟨otherUnit, otherHas, otherHeld⟩ :=
            holds_of_hasRow (fits second _ isSecond) otherRow
          rw [same] at held
          have alike := Memory.holds_unique held otherHeld
          refine owned.alone first second unit ?_ ?_
          · rw [unitOf, isFirst]
            exact has
          · rw [unitOf, isSecond, alike]
            exact otherHas

/-- A posting that gets a row finds the others that had got it over. -/
theorem Granted.transition {allowed : Request → Prop} (granted : state.Granted)
    (owned : state.Owned) (fits : Invariant.Everywhere Client.Fits after)
    (transition : Transition allowed state after) :
    after.Granted := by
  rcases rowsStep_transition owned transition with step | ⟨winner, step⟩
  · exact granted.step step .nil .nil fun _ _ _ member => by cases member
  · refine granted.step step (List.pairwise_singleton _ _) (by simp) fun first old second new => ?_
    intro one another course other isFirst isSecond same
    obtain ⟨posting, before, known, status⟩ := granted.granted first old
    obtain ⟨next, now, row⟩ := step.forward first posting before known
    obtain ⟨posting', before', known'⟩ := step.known second new
    obtain ⟨next', now', row'⟩ := step.forward second posting' before' known'
    rw [now] at isFirst
    rw [now'] at isSecond
    cases isFirst
    cases isSecond
    have otherRow := (row'.gains (by simpa using new)).2.2
    -- If the first were still running, both would hold the row now, and a row has one holder.
    rcases row.status status with isOver | held
    · exact isOver
    · have alike := same_of_rows (owned.advance transition.advance) fits now now' held otherRow same
      exact absurd (alike ▸ old) (fresh_of_gained granted step new)

end State

theorem granted_run (actions : List Action) : (run actions).Granted := by
  rw [← List.nil_append actions]
  have both :=
    run_onwards (fun state => state.Granted ∧ Invariant.Everywhere Client.Fits state)
      (asks_anything actions)
      (⟨State.granted_start, posting_fits.run (asks_anything [])⟩ : (run []).Granted ∧ _)
      fun state after owned holds transition =>
      have fits := posting_fits.transition owned holds.2 transition
      ⟨holds.1.transition owned fits transition, fits⟩
  exact both.1

end Shared

end Passbook
