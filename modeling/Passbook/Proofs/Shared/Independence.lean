import Passbook.Proofs.Shared.Deadlock
import Passbook.Proofs.Shared.MirrorClients

/-!
Accounts are independent of each other. If the steps of all postings and statements on other
accounts are taken out of a run, then the calls on an account, and those that create accounts, have
the same results at the same moments, and the account has the same balance and history; only the
identifiers of entries are others, in the same order.
-/

set_option autoImplicit false

namespace Passbook.Shared

open Memory (Progress Alongside Agree)

/-!
## Runs without the steps of calls on other accounts
-/

/-- Whether an action is a step of such a call. -/
def Action.isElsewhere (row : AccountId) (state : State) : Action → Bool
  | .proceed id => (state.clients id).any (·.isElsewhere row)
  | .giveUp id => (state.clients id).any (·.isElsewhere row)
  | _ => false

def restrictFrom (row : AccountId) : State → List Action → List Action
  | _, [] => []
  | state, action :: later =>
      if action.isElsewhere row state then restrictFrom row (state.perform action) later
      else action :: restrictFrom row (state.perform action) later

/-- A run without the steps of postings and statements on other accounts. -/
def restrict (row : AccountId) (actions : List Action) : List Action :=
  restrictFrom row .start actions

theorem restrictFrom_append (row : AccountId) (state : State) (earlier later : List Action) :
    restrictFrom row state (earlier ++ later) =
      restrictFrom row state earlier ++
        restrictFrom row (earlier.foldl State.perform state) later := by
  induction earlier generalizing state with
  | nil => rfl
  | cons action earlier ih =>
      simp only [List.cons_append, restrictFrom, List.foldl_cons]
      split
      · exact ih _
      · exact congrArg (action :: ·) (ih _)

theorem run_restrict_append (row : AccountId) (earlier : List Action) (action : Action) :
    run (restrict row (earlier ++ [action])) =
      if action.isElsewhere row (run earlier) then run (restrict row earlier) else
        (run (restrict row earlier)).perform action := by
  have last : restrict row (earlier ++ [action]) =
      restrict row earlier ++ if action.isElsewhere row (run earlier) then [] else [action] :=
        restrictFrom_append row .start earlier [action]
  rw [last]
  split
  · rw [List.append_nil]
  · rw [run_append]
    rfl

/-!
## Two runs side by side
-/

/-- Whether the states of the whole run and of the restricted run go together. -/
structure State.Mirrors (pairing : Pairing) (row : AccountId) (whole part : State) : Prop where
  along : Alongside pairing row whole.world part.world
  count : whole.lastClient = part.lastClient
  clients : ∀ id,
    Option.Rel (Client.Mirrors pairing row whole.memory) (whole.clients id) (part.clients id)

/-- Whether an action is not an order for a failure or a delay and has nothing to do with calls
other than postings, creations and statements. -/
def Action.isOrdinary : Action → Bool
  | .wait _ => true
  | .cancel _ => true
  | .post _ => true
  | .inquire (.create _ _) => true
  | .inquire (.statement _ _) => true
  | .proceed _ => true
  | .giveUp _ => true
  | _ => false

variable {pairing later : Pairing} {row : AccountId} {client twin : Client} {whole part : State}
  {id : ClientId} {action : Action} {actions earlier : List Action}

theorem Client.Level.isElsewhere (level : client.Level pairing row twin) :
    client.isElsewhere row = false := by
  cases level with
  | posts mine level => simp [Client.isElsewhere, mine]
  | @inquires asked _ _ concerns level =>
      cases asked with
      | statement id deadline =>
          have same : id = row := concerns
          simp [Client.isElsewhere, same]
      | _ => rfl

theorem Client.Elsewhere.isElsewhere {memory : Memory}
    (elsewhere : client.Elsewhere pairing row memory) : client.isElsewhere row = true := by
  cases elsewhere with
  | posts different lone => simp [Client.isElsewhere, different]
  | states different avoids lone => simp [Client.isElsewhere, different]

theorem Client.Elsewhere.atStart {memory : Memory} (elsewhere : client.Elsewhere pairing row memory)
    (world : World Memory) :
    (client.proceed world).1.atStart = client.atStart ∧ (client.giveUp world).1.atStart =
      client.atStart := by
  cases elsewhere with
  | @posts wanted course different lone => cases course <;> exact ⟨rfl, rfl⟩
  | @states id deadline course different avoids lone => cases course <;> exact ⟨rfl, rfl⟩

theorem Client.Mirrors.grows {memory after : Memory}
    (mirrors : client.Mirrors pairing row memory twin) (grows : pairing.Grows later memory.lastUnit)
    (counted : memory.lastUnit ≤ after.lastUnit) : client.Mirrors later row after twin :=
  mirrors.imp (·.grows grows) fun ⟨elsewhere, same⟩ => ⟨elsewhere.grows grows counted, same⟩

theorem clients_assign {one other : ClientId → Option Client} {memory : Memory}
    (clients : ∀ id, Option.Rel (Client.Mirrors pairing row memory) (one id) (other id))
    (own : client.Mirrors pairing row memory twin) (id next : ClientId) :
    Option.Rel (Client.Mirrors pairing row memory) (assign one id (some client) next)
      (assign other id (some twin) next) := by
  by_cases same : next = id
  · rw [same, assign_same, assign_same]
    exact .some own
  · rw [assign_other _ _ same, assign_other _ _ same]
    exact clients next

namespace State.Mirrors

theorem welcome (mirrors : State.Mirrors pairing row whole part)
    (own : client.Mirrors pairing row whole.memory twin) :
    State.Mirrors pairing row (whole.welcome client) (part.welcome twin) where
  along := mirrors.along
  count := congrArg (· + 1) mirrors.count
  clients next := by
    simp only [State.welcome, mirrors.count]
    exact clients_assign mirrors.clients own _ next

theorem clients_grow (mirrors : State.Mirrors pairing row whole part) {after : Memory}
    (grows : pairing.Grows later whole.memory.lastUnit)
    (counted : whole.memory.lastUnit ≤ after.lastUnit) (next : ClientId) :
    Option.Rel (Client.Mirrors later row after) (whole.clients next) (part.clients next) := by
  have known := mirrors.clients next
  generalize whole.clients next = one, part.clients next = other at known
  cases known with
  | none => exact .none
  | some related => exact .some (related.grows grows counted)

/-- A call that has taken a step, or has been given up, in both runs. -/
theorem settle {done twinDone : Client × World Memory}
    (mirrors : State.Mirrors pairing row whole part)
    (grows : pairing.Grows later whole.memory.lastUnit)
    (counted : whole.memory.lastUnit ≤ done.2.store.lastUnit)
    (along : Alongside later row done.2 twinDone.2)
    (own : done.1.Mirrors later row done.2.store twinDone.1) (id : ClientId) :
    State.Mirrors later row (whole.settle id done) (part.settle id twinDone) where
  along := along
  count := mirrors.count
  clients next := clients_assign (mirrors.clients_grow grows counted) own id next

/-- A call on another account that has taken a step, or has been given up, in the whole run. -/
theorem settle_elsewhere {done : Client × World Memory}
    (mirrors : State.Mirrors pairing row whole part)
    (counted : whole.memory.lastUnit ≤ done.2.store.lastUnit)
    (along : Alongside pairing row done.2 part.world) (waits : part.clients id = some twin)
    (own : done.1.Mirrors pairing row done.2.store twin) :
    State.Mirrors pairing row (whole.settle id done) part where
  along := along
  count := mirrors.count
  clients next := by
    have unchanged : assign part.clients id (some twin) = part.clients := by
      funext other
      by_cases same : other = id
      · rw [same, assign_same, waits]
      · exact assign_other _ _ same
    have assigned := clients_assign (mirrors.clients_grow (.refl pairing _) counted) own id next
    rwa [unchanged] at assigned

end State.Mirrors

/-- What a client's step or end does to a state, but for the record of who got a row. -/
def State.act (state : State) (step : Client → World Memory → Client × World Memory)
    (id : ClientId) : State :=
  match state.clients id with
  | some client => state.settle id (step client state.world)
  | none => state

theorem State.perform_proceed_act (state : State) (id : ClientId) :
    ∃ grants, state.perform (.proceed id) = { state.act Client.proceed id with grants } := by
  cases known : state.clients id with
  | none => exact ⟨state.grants, by simp only [State.perform, State.act, known]⟩
  | some client => exact ⟨_, by simp only [State.perform, State.act, known]; rfl⟩

namespace State.Mirrors

/-- Two states that differ in nothing but the record of who got a row. -/
theorem regrant (mirrors : State.Mirrors pairing row whole part) (grants others : List ClientId) :
    State.Mirrors pairing row { whole with grants } { part with grants := others } :=
  ⟨mirrors.along, mirrors.count, mirrors.clients⟩

theorem act (mirrors : State.Mirrors pairing row whole part)
    (step : Client → World Memory → Client × World Memory) (id : ClientId)
    (counted : ∀ client, whole.memory.lastUnit ≤ (step client whole.world).2.store.lastUnit)
    (together : ∀ client twin, client.Level pairing row twin →
      Agree pairing row whole.memory.lastUnit (fun later one other => one.Level later row other)
      (step client whole.world) (step twin part.world))
    (apart : ∀ client, client.Elsewhere pairing row whole.memory →
      (step client whole.world).1.Elsewhere pairing row (step client whole.world).2.store ∧
      Alongside pairing row (step client whole.world).2 part.world)
    (again : ∀ client, client.Elsewhere pairing row whole.memory →
      (step client whole.world).1.atStart = client.atStart) :
    ∃ later, pairing.Grows later whole.memory.lastUnit ∧ State.Mirrors later row (whole.act step id)
      (if (whole.clients id).any (·.isElsewhere row) then part else part.act step id) := by
  have known := mirrors.clients id
  generalize one : whole.clients id = client, other : part.clients id = twin at known
  cases known with
  | none =>
      refine ⟨pairing, .refl _ _, ?_⟩
      simpa only [State.act, one, other, Option.any_none, Bool.false_eq_true, if_false]
        using mirrors
  | @some client twin related =>
      rcases related with level | ⟨elsewhere, rfl⟩
      · obtain ⟨later, grows, next, left⟩ := together client twin level
        refine ⟨later, grows, ?_⟩
        simp only [State.act, one, other, Option.any_some, level.isElsewhere,
          Bool.false_eq_true, if_false]
        exact mirrors.settle grows (counted client) left (.inl next) id
      · obtain ⟨next, left⟩ := apart client elsewhere
        refine ⟨pairing, .refl _ _, ?_⟩
        simp only [State.act, one, Option.any_some, elsewhere.isElsewhere, if_true]
        exact mirrors.settle_elsewhere (counted client) left other
          (.inr ⟨next, (again client elsewhere).symm⟩)

theorem perform (mirrors : State.Mirrors pairing row whole part)
    (ordinary : action.isOrdinary = true) :
    ∃ later, pairing.Grows later whole.memory.lastUnit ∧
      State.Mirrors later row (whole.perform action) (if action.isElsewhere row whole then part else
        part.perform action) := by
  have along := mirrors.along
  have now : ∀ {wholeAfter partAfter : State}, State.Mirrors pairing row wholeAfter partAfter →
      ∃ later, pairing.Grows later whole.memory.lastUnit ∧
        State.Mirrors later row wholeAfter partAfter :=
    fun after => ⟨pairing, .refl _ _, after⟩
  cases action with
  | wait milliseconds =>
      exact now ⟨⟨congrArg (· + milliseconds) along.now, along.cancelled, along.store⟩,
        mirrors.count, mirrors.clients⟩
  | cancel token =>
      exact now ⟨⟨along.now, congrArg (token :: ·) along.cancelled, along.store⟩,
        mirrors.count, mirrors.clients⟩
  | post wanted =>
      refine now (mirrors.welcome ?_)
      -- A posting to another account arrives in both runs, but takes its steps in the whole run
      -- only.
      by_cases mine : wanted.account = row
      · exact .inl (.posts mine (.running (.opening .fresh)))
      · exact .inr ⟨.posts mine fun unit has => (by cases has), rfl⟩
  | inquire asked =>
      refine now (mirrors.welcome ?_)
      cases asked with
      | create registration deadline => exact .inl (.inquires trivial (.running (.opening .fresh)))
      | statement id deadline =>
          by_cases mine : id = row
          · exact .inl (.inquires mine (.running (.opening .fresh)))
          · exact .inr ⟨.states mine trivial fun unit has => (by cases has), rfl⟩
      | _ => cases ordinary
  | proceed id =>
      obtain ⟨later, grows, after⟩ :=
        mirrors.act Client.proceed id (fun client => (client_effect client _).lastUnit_le)
          (fun client twin level => level.proceed along)
          (fun client elsewhere => elsewhere.proceed along) fun client elsewhere =>
          (elsewhere.atStart _).1
      refine ⟨later, grows, ?_⟩
      obtain ⟨grants, wholeAfter⟩ := whole.perform_proceed_act id
      obtain ⟨others, partAfter⟩ := part.perform_proceed_act id
      rw [wholeAfter, partAfter, Action.isElsewhere]
      cases elsewhere : (whole.clients id).any (·.isElsewhere row) with
      | true =>
          rw [elsewhere] at after
          exact after.regrant grants part.grants
      | false =>
          rw [elsewhere] at after
          exact after.regrant grants others
  | giveUp id =>
      refine mirrors.act Client.giveUp id
        (fun client => (client_giveUp_effect client _).lastUnit_le) (fun client twin level => ?_)
        (fun client elsewhere => elsewhere.giveUp along) fun client elsewhere =>
        (elsewhere.atStart _).2
      obtain ⟨next, left⟩ := level.giveUp along
      exact ⟨pairing, .refl _ _, next, left⟩
  | failNext point => cases ordinary
  | delayNext point milliseconds => cases ordinary
  | openUnit deadline => cases ordinary
  | ask id request => cases ordinary
  | finish id ending => cases ordinary

end State.Mirrors

/-!
## What is the same
-/

/-- Whether two calls are the same call, wait for the same row, and end in the same way, but for the
identifiers of entries. -/
inductive Client.SameCall (renumbering : Renumbering) : Client → Client → Prop
  | posting {wanted : Posting} {one other : Course (Posting.Phase UnitId Progress) Posting.Result}
      (courses : one.Level (fun phase twin => phase.awaited? wanted = twin.awaited? wanted)
        (SameResult (Receipt.Same renumbering)) other) :
      SameCall renumbering (.posting wanted one) (.posting wanted other)
  | inquiry {asked : Inquiry}
      {one other : Course (Query.Phase UnitId Progress asked.Answer) (Query.Result asked.Answer)}
      (courses : one.Level (fun phase twin => phase.awaited? = twin.awaited?)
        (SameResult (asked.SameAnswer renumbering)) other) :
      SameCall renumbering (.inquiry asked one) (.inquiry asked other)

theorem Client.Level.sameCall (level : client.Level pairing row twin) :
    client.SameCall pairing.entries twin := by
  cases level with
  | posts mine level =>
      exact .posting (level.imp (fun related => by cases related <;> rfl) fun related => related)
  | inquires concerns level =>
      exact .inquiry (level.imp (fun related => by cases related <;> rfl) fun related => related)

theorem Client.SameCall.wider {renumbering wider : Renumbering}
    (same : client.SameCall renumbering twin)
    (renames : ∀ {one other}, renumbering.renames one other → wider.renames one other) :
    client.SameCall wider twin := by
  cases same with
  | posting courses =>
      exact .posting
        (courses.imp (fun related => related) fun related =>
          related.imp fun same => ⟨renames same.entries, same.balances⟩)
  | @inquiry asked _ _ courses =>
      exact .inquiry
        (courses.imp (fun related => related) fun related =>
          related.imp (asked.widens_sameAnswer renames))

/-- What is the same about an account at a moment of the whole run and of the restricted run. -/
structure SameAbout (row : AccountId) (renumbering : Renumbering) (whole part : State) : Prop where
  now : whole.world.now = part.world.now
  account : whole.memory.account? row = part.memory.account? row
  history : List.Forall₂ renumbering.SameEntry (whole.memory.entriesOf row)
    (part.memory.entriesOf row)
  calls : ∀ id client, whole.clients id = some client → client.isElsewhere row = false →
    ∃ twin, part.clients id = some twin ∧ client.SameCall renumbering twin
  /-- The calls on other accounts have not begun in the restricted run. -/
  others : ∀ id client, whole.clients id = some client → client.isElsewhere row = true →
    part.clients id = some client.atStart
  /-- Only calls on the account ever stand in the queue for its row. -/
  queue : ∀ unit ∈ whole.memory.queues row,
    ∃ id client, whole.clients id = some client ∧ client.unit? = some unit ∧
      client.account? = some row

theorem SameAbout.wider {renumbering wider : Renumbering}
    (same : SameAbout row renumbering whole part)
    (renames : ∀ {one other}, renumbering.renames one other → wider.renames one other) :
    SameAbout row wider whole part :=
  { same with
    history := same.history.imp fun _ _ entries => entries.wider renames
    calls := fun id client known about =>
      have ⟨twin, present, call⟩ := same.calls id client known about
      ⟨twin, present, call.wider renames⟩ }

private theorem queue_run (ordinary : ∀ action ∈ actions, action.isOrdinary = true) (unit : UnitId)
    (member : unit ∈ (run actions).memory.queues row) :
    ∃ id client, (run actions).clients id = some client ∧ client.unit? = some unit ∧
      client.account? = some row := by
  have owned := owned_run actions
  obtain ⟨id, has⟩ := owned.owner unit (owned.sound.queued row unit member)
  obtain ⟨client, known, mine⟩ := known_of_unitOf has
  have isCall := calls_run (fun deadline opens => by cases ordinary _ opens) id client known
  obtain ⟨got?, stands, within⟩ := (placed_run known).stands isCall mine
  exact ⟨id, client, known, mine, within row member⟩

theorem State.Mirrors.sameAbout (mirrors : State.Mirrors pairing row (run actions) part)
    (ordinary : ∀ action ∈ actions, action.isOrdinary = true) :
    SameAbout row pairing.entries (run actions) part where
  now := mirrors.along.now
  account := mirrors.along.store.account?
  history := mirrors.along.store.entries
  calls id client known about := by
    have related := mirrors.clients id
    rw [known] at related
    generalize part.clients id = twin at related
    cases related with
    | some related =>
        rcases related with level | ⟨elsewhere, -⟩
        · exact ⟨_, rfl, level.sameCall⟩
        · cases about.symm.trans elsewhere.isElsewhere
  others id client known about := by
    have related := mirrors.clients id
    rw [known] at related
    generalize part.clients id = twin at related
    cases related with
    | some related =>
        rcases related with level | ⟨-, same⟩
        · cases about.symm.trans level.isElsewhere
        · exact congrArg some same
  queue := queue_run ordinary

/-- No units and no entries. -/
def noPairs : Pairing where
  units _ _ := False
  unique := ⟨fun _ _ _ paired => paired.elim, fun _ _ _ paired => paired.elim⟩
  entries := ⟨fun _ _ => False, fun renamed => renamed.elim⟩

theorem mirrors_start (row : AccountId) : State.Mirrors noPairs row .start .start where
  along := ⟨rfl, rfl, {
    wholeUnarmed := ⟨fun _ => rfl, fun _ => rfl⟩
    partUnarmed := ⟨fun _ => rfl, fun _ => rfl⟩
    accounts := .nil
    lastAccount := rfl
    entries := .nil
    queue := .nil
    units := fun paired => paired.elim
    others := fun _ _ => ⟨rfl, rfl, fun entry member => by cases member⟩
    drawnUnits := fun paired => paired.elim
    drawnEntries := fun renamed => renamed.elim }⟩
  count := rfl
  clients _ := .none

theorem mirrors_run (row : AccountId) (ordinary : ∀ action ∈ actions, action.isOrdinary = true) :
    ∃ pairing, State.Mirrors pairing row (run actions) (run (restrict row actions)) ∧
      ∀ earlier, earlier <+: actions →
        SameAbout row pairing.entries (run earlier) (run (restrict row earlier)) := by
  -- Pairs are only ever added, so the last pairing serves all moments before.
  induction actions using List.reverseRecOn with
  | nil =>
      refine ⟨noPairs, mirrors_start row, fun earlier taken => ?_⟩
      cases List.prefix_nil.mp taken
      have mirrors : State.Mirrors noPairs row (run []) (run (restrict row [])) := mirrors_start row
      exact mirrors.sameAbout ordinary
  | append_singleton actions action ih =>
      obtain ⟨pairing, mirrors, same⟩ :=
        ih fun other member => ordinary other (List.mem_append_left _ member)
      obtain ⟨later, grows, after⟩ := mirrors.perform (ordinary action (by simp))
      have performed : (run actions).perform action = run (actions ++ [action]) :=
        (run_append actions [action]).symm
      rw [performed, ← run_restrict_append] at after
      refine ⟨later, after, fun earlier taken => ?_⟩
      rcases List.prefix_concat_iff.mp taken with rfl | before
      · exact after.sameAbout ordinary
      · exact (same earlier before).wider grows.entries

/-- Take the steps of all postings and statements on other accounts out of a run without ordered
failures and delays: then at each moment the account is the same, and so is its history, and the
calls on it, and those for new accounts, wait and end in the same way; entries keep their order. -/
theorem accounts_independent (row : AccountId) (actions : List Action)
    (ordinary : ∀ action ∈ actions, action.isOrdinary = true) :
    ∃ renumbering : Renumbering, ∀ earlier, earlier <+: actions →
      SameAbout row renumbering (run earlier) (run (restrict row earlier)) := by
  obtain ⟨pairing, -, same⟩ := mirrors_run row ordinary
  exact ⟨pairing.entries, same⟩

def otherRegistration : Registration :=
  ⟨"bob", sampleRegistration.passwordHash, by decide +kernel, by decide +kernel, by decide +kernel,
    sampleRegistration.hashed⟩

/-- Two accounts are opened, and both are credited with one unit at the same time, the second
account always a step ahead. -/
def sampleNeighbours : List Action :=
  [.inquire (.create sampleRegistration .never)] ++ List.replicate 3 (.proceed ⟨1⟩) ++
    [.inquire (.create otherRegistration .never)] ++ List.replicate 3 (.proceed ⟨2⟩) ++
    [.post { sampleMovement .credit with account := ⟨2⟩ }, .post (sampleMovement .credit)] ++
    (List.replicate 5 [.proceed ⟨3⟩, .proceed ⟨4⟩]).flatten

/-- The entry of the first account comes second in the whole run; without the steps of the other
posting it comes first. -/
theorem accounts_independent_sample :
    ((run sampleNeighbours).memory.entriesOf ⟨1⟩).map (·.id) = [⟨2⟩] ∧
      ((run (restrict ⟨1⟩ sampleNeighbours)).memory.entriesOf ⟨1⟩).map (·.id) = [⟨1⟩] ∧
      ∃ renumbering : Renumbering,
        SameAbout ⟨1⟩ renumbering (run sampleNeighbours) (run (restrict ⟨1⟩ sampleNeighbours)) := by
  obtain ⟨renumbering, same⟩ := accounts_independent ⟨1⟩ sampleNeighbours (by decide +kernel)
  exact ⟨by decide +kernel, by decide +kernel, renumbering, same sampleNeighbours List.prefix_rfl⟩

end Passbook.Shared
