import Passbook.Proofs.Calls.Failure
import Passbook.Proofs.Shared.Issued

/-!
The numbers that postings draw for their entries. A posting over a ledger in memory draws a number
with the step in which its entry is staged, so that its result tells whether it has drawn one: it
has, if it succeeds or if it stops at its commit.
-/

set_option autoImplicit false

namespace Passbook

open Memory (Progress)

namespace Posting

/-- Whether a posting with this result has drawn the number of an entry. -/
def Result.hasDrawn : Result → Bool
  | .ok _ => true
  | .error error => error.stage? = some .recorded

def Phase.hasDrawn {υ π : Type} : Phase υ π → Bool
  | .committing _ _ _ => true
  | .undoing _ cause _ => Result.hasDrawn (.error cause)
  | _ => false

end Posting

namespace Shared

/-- Whether a posting has drawn a number, as far as it goes on or has a result. -/
def Course.hasDrawn : Course (Posting.Phase UnitId Progress) Posting.Result → Bool
  | .running phase => phase.hasDrawn
  | .ended result => result.hasDrawn
  | .dropped => false

/-!
## Steps
-/

theorem hasDrawn_abort (unit : UnitId) (cause : PostingError) (world : World Memory) :
    (Course.ofTurn (Posting.abort Memory.store unit cause world).1).hasDrawn =
      Posting.Result.hasDrawn (.error cause) := by
  unfold Posting.abort
  split <;> rfl

theorem hasDrawn_ofInterruption (stage : Stage) (reason : Interruption) :
    Posting.Result.hasDrawn (.error (.ofInterruption stage reason)) =
      decide (stage = .recorded) := by
  cases reason <;> simp [Posting.Result.hasDrawn, PostingError.ofInterruption, PostingError.stage?]

theorem hasDrawn_ofStore (stage : Stage) (error : StoreError) :
    Posting.Result.hasDrawn (.error (.ofStore stage error)) = decide (stage = .recorded) := by
  simp only [Posting.Result.hasDrawn, Calls.stage?_ofStore, Option.some.injEq]

theorem hasDrawn_ofRefusal (account : AccountId) (balance : Money) (requested : Amount)
    (refusal : LedgerError) :
    Posting.Result.hasDrawn (.error (.ofRefusal account balance requested refusal)) = false := by
  cases refusal <;> rfl

/-- The counter of entries moves if the number of an entry is heard. -/
theorem lastEntry_proceed (client : Client) (world : World Memory) :
    (client.proceed world).2.store.lastEntry ≠ world.store.lastEntry ↔
      ((client.hears? world).bind Heard.entryGiven?).isSome = true := by
  have issues := (client.proceed_counts world).entries
  generalize (client.proceed world).2.store.lastEntry = after at issues ⊢
  cases heard : (client.hears? world).bind Heard.entryGiven? with
  | none =>
      rw [heard] at issues
      cases issues
      simp
  | some entry =>
      rw [heard, Option.map_some] at issues
      generalize number : entry.value = value at issues
      cases issues
      simp

variable {posting : Posting} {phase : Posting.Phase UnitId Progress} {world : World Memory}

theorem hasDrawn_ending (ending : phase.isEnding = true) (world : World Memory) :
    (Course.ofTurn (posting.step Memory.store phase world).1).hasDrawn = phase.hasDrawn := by
  cases phase with
  | committing unit receipt progress =>
      simp only [Posting.step]
      rcases Memory.store.tryFinish unit .commit progress world with ⟨later | error | done, left⟩
      · rfl
      · exact hasDrawn_ofStore _ _
      · rfl
  | undoing unit cause progress =>
      simp only [Posting.step]
      rcases Memory.store.tryFinish unit .rollback progress world
        with ⟨later | error | done, left⟩ <;> rfl
  | _ => cases ending

theorem hasDrawn_interrupted {reason : Interruption} (early : phase.isEnding = false)
    (interrupted : posting.context.interruption world = some reason) :
    (Course.ofTurn (posting.step Memory.store phase world).1).hasDrawn = phase.hasDrawn := by
  have ends := (Posting.step_interrupted early interrupted).1
  rw [ends]
  change Posting.Result.hasDrawn (.error (.ofInterruption phase.stage reason)) = _
  rw [hasDrawn_ofInterruption]
  cases phase <;> first | rfl | cases early

theorem hasDrawn_judge (unit : UnitId) (account : Account) (world : World Memory) :
    (Course.ofTurn (posting.judge Memory.store unit account world).1).hasDrawn = false := by
  unfold Posting.judge
  cases post account.balance posting.kind posting.amount with
  | ok balance => rfl
  | error refusal => exact (hasDrawn_abort _ _ _).trans (hasDrawn_ofRefusal _ _ _ _)

theorem hasDrawn_decideCommit (unit : UnitId) (receipt : Receipt) (world : World Memory) :
    (Course.ofTurn (posting.decideCommit Memory.store unit receipt world).1).hasDrawn = true := by
  unfold Posting.decideCommit
  cases posting.context.interruption world with
  | none => rfl
  | some reason => exact (hasDrawn_abort _ _ _).trans (hasDrawn_ofInterruption _ _)

/-- Of the steps that are not interrupted only the staging of an entry draws a number. -/
theorem hasDrawn_uninterrupted (early : phase.isEnding = false)
    (uninterrupted : posting.context.interruption world = none) :
    (Course.ofTurn (posting.step Memory.store phase world).1).hasDrawn =
      (((Client.posting posting (.running phase)).hears? world).bind Heard.entryGiven?).isSome := by
  have tries : (Client.posting posting (.running phase)).tries? world = phase.trial? posting := by
    simp only [Client.tries?, Client.isInterrupted, uninterrupted, Option.isSome_none,
      Bool.false_eq_true, if_false, Client.trial?]
  cases phase with
  | opening progress =>
      simp only [Client.hears?, tries, Posting.Phase.trial?, Posting.step,
        Posting.guarded, uninterrupted]
      rcases Memory.store.tryOpenBy posting.context.deadline progress world
        with ⟨later | error | unit, left⟩
      · rfl
      · exact hasDrawn_ofStore _ _
      · rfl
  | locking unit progress =>
      simp only [Client.hears?, tries, Posting.Phase.trial?, Posting.step, Posting.guardedAsk,
        Posting.guarded, uninterrupted]
      rcases Memory.store.tryAsk unit posting.lockRequest progress world
        with ⟨later | error | _ | account, left⟩
      · rfl
      · exact (hasDrawn_abort _ _ _).trans (hasDrawn_ofStore _ _)
      · exact hasDrawn_abort _ _ _
      · exact hasDrawn_judge _ _ _
  | writing unit balance progress =>
      simp only [Client.hears?, tries, Posting.Phase.trial?, Posting.step, Posting.guardedAsk,
        Posting.guarded, uninterrupted]
      rcases Memory.store.tryAsk unit (posting.balanceRequest balance) progress world
        with ⟨later | error | done, left⟩
      · rfl
      · exact (hasDrawn_abort _ _ _).trans (hasDrawn_ofStore _ _)
      · rfl
  | appending unit balance progress =>
      simp only [Client.hears?, tries, Posting.Phase.trial?, Posting.step, Posting.guardedAsk,
        Posting.guarded, uninterrupted]
      rcases Memory.store.tryAsk unit posting.entryRequest progress world
        with ⟨later | error | entry, left⟩
      · rfl
      · exact (hasDrawn_abort _ _ _).trans (hasDrawn_ofStore _ _)
      · exact hasDrawn_decideCommit _ _ _
  | committing unit receipt progress => cases early
  | undoing unit cause progress => cases early

/-- After a step a posting has drawn a number if it had drawn one before or if the counter moved. -/
theorem hasDrawn_step (posting : Posting) (phase : Posting.Phase UnitId Progress)
    (world : World Memory) :
    (Course.ofTurn (posting.step Memory.store phase world).1).hasDrawn = true ↔
      phase.hasDrawn = true ∨ (posting.step Memory.store phase world).2.store.lastEntry ≠
        world.store.lastEntry := by
  have moves := lastEntry_proceed (.posting posting (.running phase)) world
  change (posting.step Memory.store phase world).2.store.lastEntry ≠ _ ↔ _ at moves
  rw [moves]
  cases ending : phase.isEnding with
  | true =>
      have untried : (Client.posting posting (.running phase)).hears? world = none := by
        have none : phase.trial? posting = none := by cases phase <;> first | rfl | cases ending
        simp only [Client.hears?, Client.tries?, Client.trial?, none, ite_self]
      rw [untried, hasDrawn_ending ending]
      simp
  | false =>
      cases interrupted : posting.context.interruption world with
      | some reason =>
          have unheard : (Client.posting posting (.running phase)).hears? world = none := by
            simp only [Client.hears?, Client.tries?, Client.isInterrupted, interrupted,
              Option.isSome_some, if_true]
          rw [unheard, hasDrawn_interrupted ending interrupted]
          simp
      | none =>
          have fresh : phase.hasDrawn = false := by cases phase <;> first | rfl | cases ending
          rw [hasDrawn_uninterrupted ending interrupted, fresh]
          simp

/-!
## Runs
-/

/-- Whether a client has drawn the number of an entry in one of its steps. -/
def Draws (actions : List Action) (id : ClientId) : Prop :=
  ∃ earlier, earlier ++ [.proceed id] <+: actions ∧
    (run (earlier ++ [.proceed id])).memory.lastEntry ≠ (run earlier).memory.lastEntry

variable {actions : List Action} {action : Action} {id : ClientId}

theorem draws_append : Draws (actions ++ [action]) id ↔ Draws actions id ∨
    (action = .proceed id ∧ ((run actions).perform action).memory.lastEntry ≠
      (run actions).memory.lastEntry) := by
  have now : run (actions ++ [action]) = (run actions).perform action := run_append actions [action]
  constructor
  · rintro ⟨earlier, taken, moved⟩
    rcases List.prefix_concat_iff.mp taken with last | old
    · obtain ⟨rfl, same⟩ := List.append_inj' last rfl
      cases same
      exact .inr ⟨rfl, now ▸ moved⟩
    · exact .inl ⟨earlier, old, moved⟩
  · rintro (⟨earlier, taken, moved⟩ | ⟨rfl, moved⟩)
    · exact ⟨earlier, taken.trans (List.prefix_append actions [action]), moved⟩
    · exact ⟨actions, List.prefix_rfl, now.symm ▸ moved⟩

/-- What a client that is a posting tells about what it has drawn. A posting that was given up tells
nothing. -/
def TellsDraw (drawn : Prop) : Option Client → Prop
  | none => ¬ drawn
  | some (.posting _ .dropped) => True
  | some (.posting _ course) => drawn ↔ course.hasDrawn = true
  | some (.inquiry _ _) => True
  | some (.hand _) => True

theorem TellsDraw.congr {drawn other : Prop} {client : Option Client}
    (tells : TellsDraw drawn client) (same : other ↔ drawn) :
    TellsDraw other client := by
  rwa [propext same]

theorem TellsDraw.proceed {drawn : Prop} {client : Client} (tells : TellsDraw drawn (some client))
    (world : World Memory) :
    TellsDraw (drawn ∨ (client.proceed world).2.store.lastEntry ≠ world.store.lastEntry)
      (some (client.proceed world).1) := by
  cases client with
  | posting posting course =>
      cases course with
      | running phase =>
          have before : drawn ↔ phase.hasDrawn = true := tells
          have step := hasDrawn_step posting phase world
          rw [← before] at step
          change TellsDraw (drawn ∨ (posting.step Memory.store phase world).2.store.lastEntry ≠
            world.store.lastEntry)
            (some (.posting posting (.ofTurn (posting.step Memory.store phase world).1)))
          rw [← propext step]
          cases (posting.step Memory.store phase world).1 <;> exact Iff.rfl
      | ended result => exact tells.congr (or_iff_left fun moved => moved rfl)
      | dropped => trivial
  | inquiry inquiry course => cases course <;> trivial
  | hand course => cases course <;> trivial

theorem TellsDraw.giveUp {drawn : Prop} {client : Client} (tells : TellsDraw drawn (some client))
    (world : World Memory) :
    TellsDraw drawn (some (client.giveUp world).1) := by
  cases client with
  | posting posting course =>
      cases course with
      | running phase => trivial
      | ended result => exact tells
      | dropped => trivial
  | inquiry inquiry course => cases course <;> trivial
  | hand course => cases course <;> trivial

private theorem tellsDraw_proceed
    (tells : TellsDraw (Draws actions id) ((run actions).clients id)) :
    TellsDraw (Draws (actions ++ [.proceed id]) id)
      (((run actions).perform (.proceed id)).clients id) := by
  cases known : (run actions).clients id with
  | none =>
      have still : (run actions).perform (.proceed id) = run actions := by
        simp [State.perform, known]
      rw [known] at tells
      rw [still, known]
      exact tells.congr (draws_append.trans (or_iff_left fun moved => moved.2 (by rw [still])))
  | some client =>
      obtain ⟨world, after⟩ := State.perform_proceed known
      rw [known] at tells
      rw [after]
      refine (tells.proceed (run actions).world).congr (draws_append.trans ?_)
      simp only [true_and, State.memory, world]

private theorem tellsDraw_giveUp {drawn : Prop}
    (tells : TellsDraw drawn ((run actions).clients id)) :
    TellsDraw drawn (((run actions).perform (.giveUp id)).clients id) := by
  cases known : (run actions).clients id with
  | none =>
      have still : (run actions).perform (.giveUp id) = run actions := by
        simp [State.perform, known]
      rwa [still]
  | some client =>
      rw [known] at tells
      rw [(State.perform_giveUp known).2]
      exact tells.giveUp _

theorem tellsDraw_run (actions : List Action) (id : ClientId) :
    TellsDraw (Draws actions id) ((run actions).clients id) := by
  induction actions using List.reverseRecOn with
  | nil =>
      rintro ⟨earlier, taken, -⟩
      have empty := taken.length_le
      simp at empty
  | append_singleton actions action ih =>
      have now : run (actions ++ [action]) = (run actions).perform action :=
        run_append actions [action]
      rw [now]
      by_cases proceeds : action = .proceed id
      · cases proceeds
        exact tellsDraw_proceed ih
      · have drawn : Draws (actions ++ [action]) id ↔ Draws actions id :=
          draws_append.trans (or_iff_left fun moved => proceeds moved.1)
        have kept := ih.congr drawn
        by_cases own : action.isStepOf id
        · -- The only other step of its own is that the client is given up.
          cases action with
          | giveUp client =>
              cases own
              exact tellsDraw_giveUp kept
          | proceed client =>
              cases own
              exact absurd rfl proceeds
          | _ => cases own
        · rcases clients_of_not_own (owned_run actions) own
            with same | ⟨absent, posting, arrived⟩ | ⟨inquiry, course, arrived⟩ | ⟨hand, told⟩
          · rwa [same]
          · rw [absent] at kept
            rw [arrived]
            exact iff_of_false kept Bool.false_ne_true
          · rw [arrived]
            trivial
          · rw [told]
            trivial

theorem draws_iff {posting : Posting} {result : Posting.Result}
    (known : (run actions).clients id = some (.posting posting (.ended result))) :
    Draws actions id ↔ (∃ receipt, result = .ok receipt) ∨ ∃ error, result = .error error ∧
      error.stage? = some .recorded := by
  have tells := tellsDraw_run actions id
  rw [known] at tells
  refine Iff.trans tells ?_
  cases result with
  | ok receipt => simp [Course.hasDrawn, Posting.Result.hasDrawn]
  | error error => simp [Course.hasDrawn, Posting.Result.hasDrawn]

/-- A failed posting says where it stopped and why, over every store and whenever its caller was
interrupted; over a ledger in memory its result also tells whether the number of an entry was drawn
for it. -/
theorem failures_accurate :
    (∀ {σ υ π : Type} {behind : LedgerStore σ υ π} {posting : Posting} {error : PostingError}
      {world : World (Calls.Traced σ υ)},
      Calls.Reaches behind posting (.ended (.error error)) world →
      Calls.Accurate posting world.store.trace error) ∧
    ∀ {actions : List Action} {id : ClientId} {posting : Posting} {result : Posting.Result},
      (run actions).clients id = some (.posting posting (.ended result)) →
        (Draws actions id ↔ (∃ receipt, result = .ok receipt) ∨ ∃ error, result = .error error ∧
          error.stage? = some .recorded) :=
  ⟨Calls.accurate_run, draws_iff⟩

/-- A credit over a ledger that fails to record it, tried once. -/
def sampleFailure :
    Poll (Posting.Phase UnitId (Option Progress)) Posting.Result ×
      World (Calls.Traced Memory UnitId) :=
  (sampleMovement .credit).tryPost (Calls.Traced.store Memory.store)
    (Posting.start (Calls.Traced.store Memory.store))
    ⟨0, [], ⟨{ Memory.empty with
      accounts := [⟨⟨1⟩, "alice", "hash", .zero⟩], faults := (· == .append) }, []⟩, []⟩

theorem failures_accurate_sample :
    Calls.Accurate (sampleMovement .credit) sampleFailure.2.store.trace
      (.store .mutated (Memory.injected .append)) ∧
      Calls.StopsAt sampleFailure.2.store.trace .append ∧ Draws sampleActions ⟨2⟩ ∧
        ¬ Draws sampleActions ⟨3⟩ := by
  have reached : Calls.Reaches Memory.store (sampleMovement .credit)
      (.ofPoll sampleFailure.1) sampleFailure.2 :=
    Calls.Reaches.tries (.start rfl)
  have accurate : Calls.Accurate (sampleMovement .credit) sampleFailure.2.store.trace
      (.store .mutated (Memory.injected .append)) :=
    failures_accurate.1 reached
  have credit : (run sampleActions).clients ⟨2⟩ =
      some (.posting (sampleMovement .credit) (.ended (.ok _))) := rfl
  have debit : (run sampleActions).clients ⟨3⟩ =
      some (.posting (sampleMovement .debit) (.ended (.error _))) := rfl
  refine ⟨accurate, (accurate.mutated .mutated rfl).mp rfl,
    (failures_accurate.2 credit).mpr (.inl ⟨_, rfl⟩), fun draws => ?_⟩
  rcases (failures_accurate.2 debit).mp draws with ⟨receipt, same⟩ | ⟨error, same, recorded⟩
  · cases same
  · cases same
    cases recorded

end Shared

end Passbook
