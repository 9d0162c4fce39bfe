import Mathlib.Data.List.Induction
import Passbook.Proofs.Shared.Retirement

/-!
A posting that succeeds has changed the committed ledger in exactly one of its steps, and one that
fails or is given up in none. Nothing of a posting that is over remains: its unit is closed for
good, holds no row and waits for none, and what a failed posting had staged is never seen.
-/

set_option autoImplicit false

namespace Passbook.Shared

open Memory (Progress Rearmed)

/-- Whether an action is a step of a client: the client goes on or is given up. -/
def Action.isStepOf (id : ClientId) : Action → Prop
  | .proceed client => client = id
  | .giveUp client => client = id
  | _ => False

/-- Whether a step of a client changed the committed ledger in a run. The step is the action that
comes after the earlier ones. -/
structure Changes (actions : List Action) (id : ClientId) (earlier : List Action)
    (action : Action) : Prop where
  taken : earlier ++ [action] <+: actions
  own : action.isStepOf id
  changed : (run (earlier ++ [action])).memory.tables ≠ (run earlier).memory.tables

/-- No step of a client changed the committed ledger. -/
def TookNoEffect (actions : List Action) (id : ClientId) : Prop :=
  ∀ earlier action, ¬ Changes actions id earlier action

/-- One step of a posting, and no other, changed the committed ledger, and it did what the receipt
says. -/
def TookEffect (actions : List Action) (id : ClientId) (posting : Posting)
    (receipt : Receipt) : Prop :=
  ∃ earlier action, Changes actions id earlier action ∧
    posting.Commits receipt (run earlier).memory (run (earlier ++ [action])).memory ∧
    ∀ other another, Changes actions id other another → other = earlier ∧ another = action

/-!
## Steps
-/

variable {posting : Posting} {course : Course (Posting.Phase UnitId Progress) Posting.Result}
  {state : State} {id : ClientId} {action : Action} {actions : List Action}

theorem perform_own (fits : Invariant.Everywhere Client.Fits state)
    (known : state.clients id = some (.posting posting course)) (own : action.isStepOf id) :
    ∃ next, (state.perform action).clients id = some (.posting posting next) ∧
      OwnStep posting state.memory (state.perform action).memory course next := by
  cases action with
  | proceed client =>
      cases own
      obtain ⟨next, same, step⟩ := own_proceed (fits id _ known)
      exact ⟨next, by simp [State.perform, State.settle, known, same],
        by simpa [State.perform, State.settle, known]⟩
  | giveUp client =>
      cases own
      obtain ⟨next, same, step⟩ := own_giveUp posting course state.world
      exact ⟨next, by simp [State.perform, State.settle, known, same],
        by simpa [State.perform, State.settle, known]⟩
  | _ => cases own

private theorem clients_welcome (owned : state.Owned) (client : Client) (id : ClientId) :
    (state.welcome client).clients id = state.clients id ∨
      state.clients id = none ∧ (state.welcome client).clients id = some client := by
  by_cases same : id = ⟨state.lastClient + 1⟩
  · refine .inr ⟨?_, by simp [State.welcome, same]⟩
    rw [same]
    exact owned.next_clients
  · exact .inl (by simp [State.welcome, assign_other, same])

private theorem clients_direct (state : State) (client id : ClientId) (task : UnitId → Hand) :
    (state.direct client task).clients id = state.clients id ∨
      ∃ hand, (state.direct client task).clients id = some (.hand hand) := by
  unfold State.direct
  split
  · by_cases same : id = client
    · rw [same]
      exact .inr ⟨_, assign_same _ _ _⟩
    · exact .inl (assign_other _ _ same)
  · exact .inl rfl

private theorem clients_settle {client : ClientId} (different : client ≠ id)
    (done : Client × World Memory) :
    (state.settle client done).clients id = state.clients id :=
  assign_other _ _ (Ne.symm different)

/-- What an action makes of a client whose step it is not: nothing, or the client arrives, or a unit
in the hands of a caller is told what to do. -/
theorem clients_of_not_own (owned : state.Owned) (other : ¬ action.isStepOf id) :
    (state.perform action).clients id = state.clients id ∨
      (state.clients id = none ∧ ∃ posting,
        (state.perform action).clients id = some (.posting posting (.running (.opening .fresh)))) ∨
      (∃ inquiry course, (state.perform action).clients id = some (.inquiry inquiry course)) ∨
      ∃ hand, (state.perform action).clients id = some (.hand hand) := by
  cases action with
  | wait milliseconds => exact .inl rfl
  | cancel token => exact .inl rfl
  | failNext point => exact .inl rfl
  | delayNext point milliseconds => exact .inl rfl
  | post posting =>
      refine (clients_welcome owned _ id).imp_right fun arrives =>
        .inl ⟨arrives.1, posting, arrives.2⟩
  | inquire inquiry =>
      refine (clients_welcome owned _ id).imp_right fun arrives =>
        .inr (.inl ⟨inquiry, _, arrives.2⟩)
  | openUnit deadline =>
      refine (clients_welcome owned _ id).imp_right fun arrives => .inr (.inr ⟨_, arrives.2⟩)
  | ask client request =>
      exact (clients_direct state client id _).imp_right fun directed => .inr (.inr directed)
  | finish client ending =>
      exact (clients_direct state client id _).imp_right fun directed => .inr (.inr directed)
  | proceed client =>
      simp only [State.perform]
      split
      · exact .inl (clients_settle other _)
      · exact .inl rfl
  | giveUp client =>
      simp only [State.perform]
      split
      · exact .inl (clients_settle other _)
      · exact .inl rfl

/-!
## Effects in the committed ledger
-/

theorem changes_append {earlier : List Action} {another : Action} :
    Changes (actions ++ [action]) id earlier another ↔
      Changes actions id earlier another ∨
        (earlier = actions ∧ another = action ∧ action.isStepOf id ∧
          ((run actions).perform action).memory.tables ≠ (run actions).memory.tables) := by
  have now : run (actions ++ [action]) = (run actions).perform action := run_append actions [action]
  constructor
  · rintro ⟨taken, own, changed⟩
    rcases List.prefix_concat_iff.mp taken with last | old
    · obtain ⟨rfl, same⟩ := List.append_inj' last rfl
      cases same
      rw [now] at changed
      exact .inr ⟨rfl, rfl, own, changed⟩
    · exact .inl ⟨old, own, changed⟩
  · rintro (old | ⟨rfl, rfl, own, changed⟩)
    · exact ⟨old.taken.trans (List.prefix_append actions [action]), old.own, old.changed⟩
    · rw [← now] at changed
      exact ⟨List.prefix_rfl, own, changed⟩

/-- An action that is no step of a client, or that leaves the committed ledger alone, adds no
effect. -/
private theorem changes_append_of_spared {earlier : List Action} {another : Action}
    (spared : action.isStepOf id → ((run actions).perform action).memory.tables =
      (run actions).memory.tables) :
    Changes (actions ++ [action]) id earlier another ↔ Changes actions id earlier another := by
  rw [changes_append]
  exact or_iff_left fun new => new.2.2.2 (spared new.2.2.1)

/-- The effect that a client has had so far, as far as it is a posting. -/
def Accounted (actions : List Action) (id : ClientId) : Option Client → Prop
  | none => TookNoEffect actions id
  | some (.posting posting (.ended (.ok receipt))) => TookEffect actions id posting receipt
  | some (.posting _ _) => TookNoEffect actions id
  | some (.inquiry _ _) => True
  | some (.hand _) => True

private theorem Accounted.spared {client : Option Client} (accounted : Accounted actions id client)
    (spared : action.isStepOf id → ((run actions).perform action).memory.tables =
      (run actions).memory.tables) :
    Accounted (actions ++ [action]) id client := by
  have same : ∀ earlier another, Changes (actions ++ [action]) id earlier another ↔
      Changes actions id earlier another :=
    fun _ _ => changes_append_of_spared spared
  have none : TookNoEffect actions id → TookNoEffect (actions ++ [action]) id :=
    fun noEffect earlier another => fun changes =>
      noEffect earlier another ((same earlier another).mp changes)
  unfold Accounted at accounted ⊢
  split at accounted
  · exact none accounted
  · obtain ⟨earlier, step, changes, commits, only⟩ := accounted
    exact ⟨earlier, step, (same _ _).mpr changes, commits,
      fun other another more => only other another ((same _ _).mp more)⟩
  · exact none accounted
  · trivial
  · trivial

private theorem Accounted.own_step {next : Course (Posting.Phase UnitId Progress) Posting.Result}
    (accounted : Accounted actions id (some (.posting posting course))) (own : action.isStepOf id)
    (step : OwnStep posting (run actions).memory ((run actions).perform action).memory
      course next) :
    Accounted (actions ++ [action]) id (some (.posting posting next)) := by
  cases step with
  | commits commits =>
      have now : run (actions ++ [action]) = (run actions).perform action :=
        run_append actions [action]
      refine ⟨actions, action, changes_append.mpr (.inr ⟨rfl, rfl, own, commits.tables_ne⟩),
        now.symm ▸ commits, ?_⟩
      intro other another changes
      rcases changes_append.mp changes with old | new
      · exact absurd old (accounted other another)
      · exact ⟨new.1, new.2.1⟩
  | spares tables unpaid =>
      have spared := accounted.spared fun _ => tables
      cases next with
      | running phase => exact spared
      | dropped => exact spared
      | ended result =>
          cases result with
          | error error => exact spared
          | ok receipt => exact absurd rfl (unpaid receipt)
  | rests tables => exact accounted.spared fun _ => tables

private theorem perform_own_others (own : action.isStepOf id) :
    (∀ inquiry course, state.clients id = some (.inquiry inquiry course) →
        ∃ next, (state.perform action).clients id = some (.inquiry inquiry next)) ∧
      (∀ course, state.clients id = some (.hand course) →
        ∃ next, (state.perform action).clients id = some (.hand next)) ∧
      (state.clients id = none → state.perform action = state) := by
  cases action with
  | proceed client =>
      cases own
      refine ⟨fun inquiry course known => ?_,
        fun course known => ?_, fun absent => by simp [State.perform, absent]⟩
      · cases course <;>
          exact ⟨_, by simp [State.perform, State.settle, known, Client.proceed]; rfl⟩
      · cases course <;>
          exact ⟨_, by simp [State.perform, State.settle, known, Client.proceed]; rfl⟩
  | giveUp client =>
      cases own
      refine ⟨fun inquiry course known => ?_,
        fun course known => ?_, fun absent => by simp [State.perform, absent]⟩
      · cases course <;> exact ⟨_, by simp [State.perform, State.settle, known, Client.giveUp]; rfl⟩
      · cases course <;> exact ⟨_, by simp [State.perform, State.settle, known, Client.giveUp]; rfl⟩
  | _ => cases own

theorem accounted_run (actions : List Action) (id : ClientId) :
    Accounted actions id ((run actions).clients id) := by
  induction actions using List.reverseRecOn with
  | nil =>
      intro earlier action changes
      have empty := changes.taken.length_le
      simp at empty
  | append_singleton actions action ih =>
      have now : run (actions ++ [action]) = (run actions).perform action :=
        run_append actions [action]
      have owned := owned_run actions
      rw [now]
      -- Only a step of the client itself can end its posting or count as its change of the tables.
      by_cases own : action.isStepOf id
      · cases known : (run actions).clients id with
        | none =>
            have still := (perform_own_others own).2.2 known
            rw [known] at ih
            rw [still, known]
            exact ih.spared fun _ => by rw [still]
        | some client =>
            cases client with
            | posting posting course =>
                rw [known] at ih
                obtain ⟨next, after, step⟩ :=
                  perform_own (posting_fits.run (asks_anything actions)) known own
                rw [after]
                exact ih.own_step own step
            | inquiry inquiry course =>
                obtain ⟨next, after⟩ := (perform_own_others own).1 inquiry course known
                rw [after]
                trivial
            | hand course =>
                obtain ⟨next, after⟩ := (perform_own_others own).2.1 course known
                rw [after]
                trivial
      · have spared : Accounted (actions ++ [action]) id ((run actions).clients id) :=
          ih.spared fun isOwn => absurd isOwn own
        rcases clients_of_not_own owned own
          with same | ⟨absent, posting, arrived⟩ | ⟨inquiry, course, arrived⟩ | ⟨hand, told⟩
        · rwa [same]
        · rw [absent] at spared
          rw [arrived]
          exact spared
        · rw [arrived]
          trivial
        · rw [told]
          trivial

/-!
## What remains
-/

/-- Whether a client had a unit of work at some moment of a run. -/
def HadUnit (actions : List Action) (id : ClientId) (unit : UnitId) : Prop :=
  ∃ earlier, earlier <+: actions ∧ (run earlier).unitOf id = some unit

/-- Whether a client had staged an entry at some moment of a run. -/
def HadStaged (actions : List Action) (id : ClientId) (entry : Entry) : Prop :=
  ∃ earlier unit, earlier <+: actions ∧ (run earlier).unitOf id = some unit ∧
    entry ∈ ((run earlier).memory.staged unit).entries

theorem unitOf_of_over (known : state.clients id = some (.posting posting course))
    (isOver : course.isOver = true) :
    state.unitOf id = none := by
  rw [State.unitOf, known]
  cases course with
  | running phase => cases isOver
  | ended result => rfl
  | dropped => rfl

private theorem retired_of_over {unit : UnitId}
    (known : (run actions).clients id = some (.posting posting course))
    (isOver : course.isOver = true) (had : HadUnit actions id unit) :
    (run actions).Retired unit := by
  obtain ⟨earlier, ⟨rest, rfl⟩, has⟩ := had
  have tracked : (run (earlier ++ rest)).unitOf id = some unit ∨
      (run (earlier ++ rest)).Retired unit := by
    refine run_onwards (fun state => state.unitOf id = some unit ∨ state.Retired unit)
      (asks_anything rest) (.inl has) ?_
    exact fun state after owned before transition =>
      State.unitOf_or_retired owned transition.advance before
  rcases tracked with still | retired
  · rw [unitOf_of_over known isOver] at still
    cases still
  · exact retired

private theorem released_of_over {unit : UnitId}
    (known : (run actions).clients id = some (.posting posting course))
    (isOver : course.isOver = true) (had : HadUnit actions id unit) (later : List Action) :
    (run (actions ++ later)).Released unit := by
  have retired : (run (actions ++ later)).Retired unit := by
    refine run_onwards (·.Retired unit) (asks_anything later) (retired_of_over known isOver had) ?_
    exact fun state after owned retired transition => retired.advance owned transition.advance
  exact retired.released (owned_run _)

private theorem posting_of_later {earlier rest : List Action} {client : Client}
    (known : (run (earlier ++ rest)).clients id = some (.posting posting course))
    (found : (run earlier).clients id = some client) :
    ∃ course, client = .posting posting course := by
  have wanted : ((run (earlier ++ rest)).clients id).map Client.posting? =
      some client.posting? := by
    refine run_onwards (fun state => (state.clients id).map Client.posting? = some client.posting?)
      (asks_anything rest) (by rw [found, Option.map_some]) ?_
    exact fun state after owned before transition => posting?_transition owned transition before
  rw [known] at wanted
  cases client with
  | posting other course =>
      cases wanted
      exact ⟨course, rfl⟩
  | inquiry inquiry course => cases wanted
  | hand course => cases wanted

private theorem numbered_of_staged {earlier rest : List Action} {unit : UnitId} {number : Int}
    (known : (run (earlier ++ rest)).clients id = some (.posting posting course))
    (has : (run earlier).unitOf id = some unit)
    (member : number ∈ (run earlier).memory.entryNumbers (some unit)) :
    (run (earlier ++ rest)).Numbered id unit number := by
  have staged : (run earlier).Numbered id unit number := by
    obtain ⟨client, found, hasUnit⟩ := Option.bind_eq_some_iff.mp has
    obtain ⟨course, rfl⟩ := posting_of_later known found
    cases course with
    | running phase => exact .staged found hasUnit member
    | ended result => cases hasUnit
    | dropped => cases hasUnit
  have both : Invariant.Everywhere Client.Fits (run (earlier ++ rest)) ∧
      (run (earlier ++ rest)).Numbered id unit number := by
    refine run_onwards (fun state => Invariant.Everywhere Client.Fits state ∧
      state.Numbered id unit number) (asks_anything rest)
      ⟨posting_fits.run (asks_anything earlier), staged⟩ ?_
    exact fun state after owned holds transition =>
      ⟨posting_fits.transition owned holds.1 transition,
        holds.2.transition owned holds.1 transition⟩
  exact both.2

private theorem unseen_of_over {entry : Entry}
    (known : (run actions).clients id = some (.posting posting course))
    (isOver : course.isOver = true) (failed : ∀ receipt, course ≠ .ended (.ok receipt))
    (had : HadStaged actions id entry) (later : List Action) :
    ∀ committed ∈ (run (actions ++ later)).memory.entries, committed.id ≠ entry.id := by
  obtain ⟨earlier, unit, ⟨rest, rfl⟩, has, staged⟩ := had
  have lost : Memory.Lost (run (earlier ++ rest)).memory entry.id.value := by
    cases numbered_of_staged known has (List.mem_map_of_mem staged) with
    | staged mine has member =>
        rw [mine] at known
        cases known
        cases isOver
    | lost lost => exact lost
    | published mine =>
        rw [mine] at known
        cases known
        exact absurd rfl (failed _)
  have stays : Memory.Lost (run (earlier ++ rest ++ later)).memory entry.id.value := by
    refine run_onwards (fun state => Memory.Lost state.memory entry.id.value)
      (asks_anything later) lost ?_
    exact fun state after owned lost transition => State.lost_advance lost transition.advance
  intro committed member same
  exact stays.absent none (List.mem_map.mpr ⟨committed, member, congrArg EntryId.value same⟩)

/-- A posting that has succeeded changed the committed ledger in exactly one step, as its receipt
says; one that has failed or was given up changed it in none, and nobody ever sees an entry that it
had staged. Either way its unit of work is gone for good. -/
theorem posting_exactly_once (actions : List Action) (id : ClientId) (posting : Posting)
    (course : Course (Posting.Phase UnitId Progress) Posting.Result)
    (known : (run actions).clients id = some (.posting posting course))
    (isOver : course.isOver = true) :
    (∀ receipt, course = .ended (.ok receipt) → TookEffect actions id posting receipt) ∧
      ((∀ receipt, course ≠ .ended (.ok receipt)) → TookNoEffect actions id ∧
        ∀ entry, HadStaged actions id entry →
          ∀ later, ∀ committed ∈ (run (actions ++ later)).memory.entries, committed.id ≠ entry.id) ∧
      ∀ unit, HadUnit actions id unit → ∀ later, (run (actions ++ later)).Released unit := by
  have accounted := accounted_run actions id
  rw [known] at accounted
  refine ⟨?_, fun failed =>
    ⟨?_, fun entry had later => unseen_of_over known isOver failed had later⟩,
    fun unit had later => released_of_over known isOver had later⟩
  · rintro receipt rfl
    exact accounted
  · cases course with
    | running phase => exact accounted
    | dropped => exact accounted
    | ended result =>
        cases result with
        | error error => exact accounted
        | ok receipt => exact absurd rfl (failed receipt)

theorem posting_exactly_once_sample :
    (TookEffect sampleActions ⟨2⟩ (sampleMovement .credit)
      ⟨⟨1⟩, .ofDecimal ⟨false, 1, 0, by decide, by decide⟩⟩ ∧
      ∀ later, (run (sampleActions ++ later)).Released ⟨2⟩) ∧
      TookNoEffect sampleActions ⟨3⟩ := by
  have credit := posting_exactly_once sampleActions ⟨2⟩ (sampleMovement .credit) _ rfl rfl
  have debit := posting_exactly_once sampleActions ⟨3⟩ (sampleMovement .debit) _ rfl rfl
  refine ⟨⟨credit.1 _ rfl, credit.2.2 ⟨2⟩ ⟨sampleActions.take 6, ⟨sampleActions.drop 6, rfl⟩, rfl⟩⟩,
    (debit.2.1 ?_).1⟩
  intro receipt same
  cases same

end Passbook.Shared
