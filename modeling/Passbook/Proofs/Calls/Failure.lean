import Passbook.Proofs.Calls.Order
import Passbook.Proofs.Ledger.Chain

/-!
What the failure of a posting says about it. A posting takes its steps in one order, and the step
that it did not get past decides about the stage of its failure, whether the store refused the step,
the caller was interrupted in it, or it took too long.
-/

set_option autoImplicit false

namespace Passbook.Calls

variable {σ υ π : Type}

/-- The steps of a posting. The last look at the caller's bounds belongs to the commit. -/
inductive Step
  | begin
  | lock
  | write
  | append
  | commit
  deriving DecidableEq

namespace Step

/-- The stage that a failure in a step is to name. -/
def stage : Step → Stage
  | begin => .idle
  | lock => .idle
  | write => .validated
  | append => .mutated
  | commit => .recorded

def earlier : Step → List Step
  | begin => []
  | lock => [begin]
  | write => [begin, lock]
  | append => [begin, lock, write]
  | commit => [begin, lock, write, append]

end Step

/-- The answer to a step, if an event is one. An account that does not exist is no failure of the
store, and no leave to go on. -/
def Event.answer? : Event υ → Option (Step × Except StoreError Unit)
  | .opened answer => some (.begin, answer.map fun _ => ())
  | .answered _ (.lock _ _) (.error error) _ => some (.lock, .error error)
  | .answered _ (.lock _ _) (.ok (some _)) _ => some (.lock, .ok ())
  | .answered _ (.setBalance _ _) answer _ => some (.write, answer)
  | .answered _ (.append _) answer _ => some (.append, answer.map fun _ => ())
  | .finished _ .commit answer => some (.commit, answer)
  | _ => none

def answers (trace : List (Event υ)) : List (Step × Except StoreError Unit) :=
  trace.filterMap Event.answer?

/-- A posting did not get past a step, although it got past all earlier ones. -/
structure StopsAt (trace : List (Event υ)) (step : Step) : Prop where
  granted : ∀ earlier ∈ step.earlier, (earlier, .ok ()) ∈ answers trace
  ungranted : (step, .ok ()) ∉ answers trace

/-!
## Ends
-/

/-- How a posting can end, with its trace and its result. -/
inductive Ends (posting : Posting) : List (Event υ) → Posting.Result → Prop
  | interruptedOpening (isTried : Bool) (interruption : Interruption) :
      Ends posting (issue isTried .opening) (.error (.ofInterruption .idle interruption))
  | timedOutOpening : Ends posting [.issued .opening] (.error (.deadlineExceeded .idle))
  | refusedOpening (refusal : StoreError) :
      Ends posting [.issued .opening, .opened (.error refusal)] (.error (.ofStore .idle refusal))
  | undone {unit : υ} {failed : List (Event υ)} {cause : PostingError}
      (fails : Fails posting unit failed cause) (answer : Except StoreError Unit) :
      Ends posting (failed ++ conclusion unit .rollback answer) (.error cause)
  | dropped {unit : υ} {failed : List (Event υ)} {cause : PostingError}
      (fails : Fails posting unit failed cause) :
      Ends posting (failed ++ [.dropped unit]) (.error cause)
  | uncommitted {unit : υ} {done : List (Event υ)} (recorded : Recorded posting unit done)
      (refusal : StoreError) :
      Ends posting (done ++ conclusion unit .commit (.error refusal))
        (.error (.ofStore .recorded refusal))
  | committed {unit : υ} {done : List (Event υ)} (recorded : Recorded posting unit done)
      (receipt : Receipt) :
      Ends posting (done ++ conclusion unit .commit (.ok ())) (.ok receipt)

/-- What a turn has ended with, if it has ended. -/
def EndsRightly (posting : Posting)
    (taken : Turn (Posting.Phase υ (Option π)) Posting.Result × World (Traced σ υ)) : Prop :=
  ∀ result, taken.1 = .ends result → Ends posting taken.2.store.trace result

section Steps

variable {posting : Posting} {unit : υ} {done : List (Event υ)} {cause : PostingError}
  {world : World (Traced σ υ)}

theorem abort_ends (behind : LedgerStore σ υ π)
    (fails : Fails posting unit world.store.trace cause) :
    EndsRightly posting (Posting.abort (Traced.store behind) unit cause world) := by
  intro result ends
  unfold Posting.abort at ends ⊢
  cases interrupted : cause.isInterruption with
  | true =>
      simp only [interrupted, if_true] at ends ⊢
      cases ends
      exact .dropped fails
  | false =>
      simp only [interrupted, Bool.false_eq_true, if_false] at ends
      cases ends

theorem judge_ends {account : Account} (behind : LedgerStore σ υ π)
    (ready : Ready posting unit done posting.lockRequest .idle)
    (told : world.store.trace =
      done ++ exchange unit posting.lockRequest (.ok (some account)) (moment world)) :
    EndsRightly posting (posting.judge (Traced.store behind) unit account world) := by
  unfold Posting.judge
  cases posted : post account.balance posting.kind posting.amount with
  | ok balance =>
      intro result ends
      cases ends
  | error refusal =>
      have fails := Fails.forbidden ready (moment world) posted
      rw [← told] at fails
      exact abort_ends behind fails

theorem decideCommit_ends {entry : Entry} {receipt : Receipt} (behind : LedgerStore σ υ π)
    (ready : Ready posting unit done posting.entryRequest .mutated)
    (told : world.store.trace =
      done ++ exchange unit posting.entryRequest (.ok entry) (moment world)) :
    EndsRightly posting (posting.decideCommit (Traced.store behind) unit receipt world) := by
  unfold Posting.decideCommit
  cases judged : posting.context.interruption world with
  | none =>
      intro result ends
      cases ends
  | some interruption =>
      have fails :=
        Fails.late ready entry ((interruption_moment posting.context world).trans judged)
      rw [← told] at fails
      exact abort_ends behind fails

theorem opening_ends {progress : Option π} (behind : LedgerStore σ υ π)
    (told : world.store.trace = issue progress.isSome .opening) :
    EndsRightly posting (posting.step (Traced.store behind) (.opening progress) world) := by
  intro result ends
  simp only [Posting.step, Posting.guarded] at ends ⊢
  cases interrupted : posting.context.interruption world with
  | some interruption =>
      simp only [interrupted] at ends ⊢
      cases ends
      have ended : Ends posting (issue progress.isSome (.opening : Call υ))
          (.error (.ofInterruption .idle interruption)) :=
        .interruptedOpening _ _
      rw [← told] at ended
      exact ended
  | none =>
      have untold : world.store.trace = [] ++ issue progress.isSome .opening := told
      have tried := attempt_told behind.fresh (fun answer _ => .opened answer) behind.tryOpen untold
      simp only [interrupted, LedgerStore.tryOpenBy] at ends ⊢
      rcases tried with ⟨next, after, answered, traced⟩ | ⟨answer, after, answered, traced⟩
      · have same : (Traced.store behind).tryOpen progress world = (.waiting (some next), after) :=
          answered
        simp only [same] at ends ⊢
        by_cases passed : posting.context.deadline.hasPassed after.now = true
        · simp only [passed, if_true] at ends ⊢
          cases ends
          have ended : Ends posting [.issued (.opening : Call υ)]
              (.error (.deadlineExceeded .idle)) := .timedOutOpening
          have same : after.store.trace = [.issued .opening] := traced
          rw [← same] at ended
          exact ended
        · simp only [passed] at ends
          cases ends
      · have same : (Traced.store behind).tryOpen progress world = (.ready answer, after) :=
          answered
        simp only [same] at ends ⊢
        cases answer with
        | error refusal =>
            cases ends
            have ended :
                Ends posting [.issued .opening, .opened (.error refusal : Except StoreError υ)]
                  (.error (.ofStore .idle refusal)) :=
              .refusedOpening refusal
            have same : after.store.trace = [.issued .opening, .opened (.error refusal)] := traced
            rw [← same] at ended
            exact ended
        | ok unit => cases ends

theorem locking_ends {progress : Option π} (behind : LedgerStore σ υ π)
    (ready : Ready posting unit done posting.lockRequest .idle)
    (told : world.store.trace = done ++ issue progress.isSome (.asking unit posting.lockRequest)) :
    EndsRightly posting (posting.step (Traced.store behind) (.locking unit progress) world) := by
  have asked := guardedAsk_told behind ready told
  simp only [Posting.step]
  rcases guarded :
    posting.guardedAsk (Traced.store behind) .idle unit posting.lockRequest progress world with
    ⟨next | cause | _ | account, after⟩ <;> rw [guarded] at asked
  · intro result ends
    cases ends
  · exact abort_ends behind asked
  · have fails := Fails.missing ready (moment after)
    have same : after.store.trace = done ++ exchange unit posting.lockRequest (.ok none)
        (moment after) := asked
    rw [← same] at fails
    exact abort_ends behind fails
  · exact judge_ends behind ready asked

theorem writing_ends {balance : Money} {progress : Option π} (behind : LedgerStore σ υ π)
    (ready : Ready posting unit done (posting.balanceRequest balance) .validated)
    (told : world.store.trace =
      done ++ issue progress.isSome (.asking unit (posting.balanceRequest balance))) :
    EndsRightly posting
      (posting.step (Traced.store behind) (.writing unit balance progress) world) := by
  have asked := guardedAsk_told behind ready told
  simp only [Posting.step]
  rcases guarded : posting.guardedAsk (Traced.store behind) .validated unit
    (posting.balanceRequest balance) progress world with
    ⟨next | cause | written, after⟩ <;> rw [guarded] at asked
  · intro result ends
    cases ends
  · exact abort_ends behind asked
  · intro result ends
    cases ends

theorem appending_ends {balance : Money} {progress : Option π} (behind : LedgerStore σ υ π)
    (ready : Ready posting unit done posting.entryRequest .mutated)
    (told : world.store.trace = done ++ issue progress.isSome (.asking unit posting.entryRequest)) :
    EndsRightly posting
      (posting.step (Traced.store behind) (.appending unit balance progress) world) := by
  have asked := guardedAsk_told behind ready told
  simp only [Posting.step]
  rcases guarded : posting.guardedAsk (Traced.store behind) .mutated unit
    posting.entryRequest progress world with
    ⟨next | cause | entry, after⟩ <;> rw [guarded] at asked
  · intro result ends
    cases ends
  · exact abort_ends behind asked
  · exact decideCommit_ends behind ready asked

theorem committing_ends {receipt : Receipt} {progress : Option π} (behind : LedgerStore σ υ π)
    (recorded : Recorded posting unit done)
    (told : world.store.trace = done ++ issue progress.isSome (.finishing unit .commit)) :
    EndsRightly posting
      (posting.step (Traced.store behind) (.committing unit receipt progress) world) := by
  intro result ends
  simp only [Posting.step] at ends ⊢
  rcases tryFinish_told behind told with ⟨next, after, same, traced⟩ | ⟨answer, after, same, traced⟩
  · rw [same] at ends
    cases ends
  · rw [same] at ends ⊢
    cases answer with
    | error refusal =>
        cases ends
        have ended := Ends.uncommitted recorded refusal
        rw [← traced] at ended
        exact ended
    | ok finished =>
        cases ends
        have ended := Ends.committed recorded receipt
        rw [← traced] at ended
        exact ended

theorem undoing_ends {progress : Option π} (behind : LedgerStore σ υ π)
    (fails : Fails posting unit done cause)
    (told : world.store.trace = done ++ issue progress.isSome (.finishing unit .rollback)) :
    EndsRightly posting
      (posting.step (Traced.store behind) (.undoing unit cause progress) world) := by
  intro result ends
  simp only [Posting.step] at ends ⊢
  rcases tryFinish_told behind told with ⟨next, after, same, traced⟩ | ⟨answer, after, same, traced⟩
  · rw [same] at ends
    cases ends
  · rw [same] at ends ⊢
    have ended := Ends.undone fails answer
    rw [← traced] at ended
    cases answer with
    | error refusal =>
        cases ends
        exact ended
    | ok finished =>
        cases ends
        exact ended

theorem step_ends {phase : Posting.Phase υ (Option π)} (behind : LedgerStore σ υ π)
    (story : Story posting (.runs phase) world.store.trace) :
    EndsRightly posting (posting.step (Traced.store behind) phase world) := by
  generalize told : world.store.trace = trace at story
  cases story with
  | opening progress => exact opening_ends behind told
  | locking ready progress => exact locking_ends behind ready told
  | writing ready progress => exact writing_ends behind ready told
  | appending ready balance progress => exact appending_ends behind ready told
  | committing recorded receipt progress => exact committing_ends behind recorded told
  | undoing fails awaited progress => exact undoing_ends behind fails told

end Steps

theorem ends_run {behind : LedgerStore σ υ π} {posting : Posting} {result : Posting.Result}
    {world : World (Traced σ υ)} (reached : Reaches behind posting (.ended result) world) :
    Ends posting world.store.trace result := by
  have kept :=
    reached.keeps (fun standing trace => Story posting standing trace ∧
      ∀ result, standing = .ended result →
      Ends posting trace result) ⟨.opening none, fun _ ends => nomatch ends⟩
    (fun phase world ⟨story, _⟩ => ⟨step_story behind story, fun result ends => ?_⟩)
    (fun phase world ⟨story, _⟩ => ⟨giveUp_story behind story, fun _ ends => nomatch ends⟩)
  · exact kept.2 result rfl
  · refine step_ends behind story result ?_
    generalize (posting.step (Traced.store behind) phase world).1 = turn at ends ⊢
    cases turn <;> cases ends
    rfl

/-!
## Answers
-/

/-- The answers to the steps before a step, all of them good. -/
def goodAnswers (step : Step) : List (Step × Except StoreError Unit) := step.earlier.map (·, .ok ())

theorem answers_append (first second : List (Event υ)) :
    answers (first ++ second) = answers first ++ answers second :=
  List.filterMap_append

theorem answers_issue (isTried : Bool) (call : Call υ) : answers (issue isTried call) = [] := by
  cases isTried <;> rfl

theorem answers_rollback (unit : υ) (answer : Except StoreError Unit) :
    answers (conclusion unit .rollback answer) = [] := rfl

theorem answers_dropped (unit : υ) : answers [.dropped unit] = [] := rfl

section Pieces

variable {posting : Posting} {unit : υ} {done : List (Event υ)} {cause : PostingError}

/-- The turn of a request is the turn of a step, which its refusal answers. -/
theorem Ready.step {request : Request} {stage : Stage}
    (ready : Ready posting unit done request stage) :
    ∃ step : Step, step.stage = stage ∧ answers done = goodAnswers step ∧
      ∀ error given, answers (exchange unit request (.error error) given) =
        [(step, .error error)] := by
  cases ready with
  | lock => exact ⟨.lock, rfl, rfl, fun _ _ => rfl⟩
  | balance ready given posted =>
      cases ready with
      | lock => exact ⟨.write, rfl, rfl, fun _ _ => rfl⟩
  | entry ready given =>
      cases ready with
      | balance ready given posted =>
          cases ready with
          | lock => exact ⟨.append, rfl, rfl, fun _ _ => rfl⟩

theorem Ready.answers_recorded (ready : Ready posting unit done posting.entryRequest .mutated)
    (entry : Entry) (given : World Unit) :
    answers (done ++ exchange unit posting.entryRequest (.ok entry) given) =
      goodAnswers .commit := by
  obtain ⟨step, stage, before, -⟩ := ready.step
  have isAppend : step = .append := by
    cases step with
    | append => rfl
    | _ => cases stage
  rw [answers_append, before, isAppend]
  rfl

theorem Recorded.answers (recorded : Recorded posting unit done) :
    Calls.answers done = goodAnswers .commit := by
  cases recorded with
  | entry ready entry goesOn => exact ready.answers_recorded entry _

/-- What the answers in a trace say about a failure. -/
inductive Explains (posting : Posting) (trace : List (Event υ)) : PostingError → Prop
  | interrupted {step : Step} (interruption : Interruption)
      (before : answers trace = goodAnswers step) :
      Explains posting trace (.ofInterruption step.stage interruption)
  | refused {step : Step} {refusal : StoreError}
      (before : answers trace = goodAnswers step ++ [(step, .error refusal)]) :
      Explains posting trace (.ofStore step.stage refusal)
  | missing {unit : υ} {given : World Unit} (before : answers trace = goodAnswers .lock)
      (locked : .answered unit posting.lockRequest (.ok none) given ∈ trace) :
      Explains posting trace (.notFound posting.account)
  | forbidden {unit : υ} {given : World Unit} {account : Account} {refusal : LedgerError}
      (before : answers trace = goodAnswers .write)
      (locked : .answered unit posting.lockRequest (.ok (some account)) given ∈ trace)
      (posted : post account.balance posting.kind posting.amount = .error refusal) :
      Explains posting trace (.ofRefusal posting.account account.balance posting.amount refusal)

theorem Fails.explains (fails : Fails posting unit done cause) {tail : List (Event υ)}
    (silent : answers tail = []) :
    Explains posting (done ++ tail) cause := by
  have dropTail : ∀ trace : List (Event υ), answers (trace ++ tail) = answers trace := by
    intro trace
    rw [answers_append, silent, List.append_nil]
  have heard :
      ∀ {done : List (Event υ)} {request : Request} {answer : Except StoreError request.Reply}
        {given : World Unit}, .answered unit request answer given ∈
        done ++ exchange unit request answer given ++ tail :=
    List.mem_append_left _ (List.mem_append_right _ (by simp [exchange]))
  cases fails with
  | interrupted ready isTried interruption =>
      obtain ⟨step, rfl, before, -⟩ := ready.step
      exact .interrupted interruption
        (by rw [dropTail, answers_append, answers_issue, List.append_nil, before])
  | refused ready error given =>
      obtain ⟨step, rfl, before, refusal⟩ := ready.step
      exact .refused (by rw [dropTail, answers_append, before, refusal])
  | missing ready given =>
      cases ready with
      | lock => exact .missing (dropTail _) heard
  | forbidden ready given posted =>
      cases ready with
      | lock => exact .forbidden (dropTail _) heard posted
  | @late done given interruption ready entry interrupted =>
      have before := ready.answers_recorded entry given
      have explained : ∀ {trace : List (Event υ)}, answers trace = goodAnswers .commit →
          Explains posting trace (.ofInterruption Step.commit.stage interruption) :=
            .interrupted interruption
      exact explained ((dropTail _).trans before)

theorem Ends.explains {trace : List (Event υ)} (ends : Ends posting trace (.error cause)) :
    Explains posting trace cause := by
  cases ends with
  | interruptedOpening isTried interruption =>
      have before : answers (issue isTried (.opening : Call υ)) = goodAnswers .begin :=
        answers_issue isTried _
      exact .interrupted interruption before
  | timedOutOpening =>
      have before : answers [.issued (.opening : Call υ)] = goodAnswers .begin := rfl
      exact .interrupted .deadlineExceeded before
  | refusedOpening refusal =>
      have before : answers [.issued .opening, .opened (.error refusal : Except StoreError υ)] =
        goodAnswers .begin ++ [(.begin, .error refusal)] := rfl
      exact .refused before
  | undone fails answer => exact fails.explains (answers_rollback _ answer)
  | dropped fails => exact fails.explains (answers_dropped _)
  | @uncommitted unit done recorded refusal =>
      have before : answers (conclusion unit .commit (.error refusal)) =
          [(.commit, .error refusal)] := rfl
      have explained : ∀ {trace : List (Event υ)},
        answers trace = goodAnswers .commit ++ [(.commit, .error refusal)] →
          Explains posting trace (.ofStore Step.commit.stage refusal) := .refused
      exact explained (by rw [answers_append, recorded.answers, before])

end Pieces

/-!
## What a failure says
-/

theorem mem_goodAnswers {step other : Step} {answer : Except StoreError Unit} :
    (other, answer) ∈ goodAnswers step ↔ other ∈ step.earlier ∧ answer = .ok () := by
  simp [goodAnswers, eq_comm]

/-- A posting stops at one step only. -/
theorem stopsAt_iff {trace : List (Event υ)} {step other : Step}
    (granted : ∀ passed, (passed, .ok ()) ∈ answers trace ↔ passed ∈ step.earlier) :
    StopsAt trace other ↔ other = step := by
  have order : (∀ earlier ∈ other.earlier, earlier ∈ step.earlier) ∧ other ∉ step.earlier ↔
      other = step := by
    cases other <;> cases step <;> decide
  rw [← order]
  exact ⟨fun stops => ⟨fun earlier member => (granted earlier).mp (stops.granted earlier member),
    fun member => stops.ungranted ((granted other).mpr member)⟩,
    fun both =>
      ⟨fun earlier member => (granted earlier).mpr (both.1 earlier member),
        fun member => both.2 ((granted other).mp member)⟩⟩

/-- A failure names the step at which the posting stopped by its stage, and what the store has to do
with it. -/
structure Accurate (posting : Posting) (trace : List (Event υ)) (error : PostingError) : Prop where
  idle : ∀ stage ∈ error.stage?, stage = .idle ↔ StopsAt trace .begin ∨ StopsAt trace .lock
  validated : ∀ stage ∈ error.stage?, stage = .validated ↔ StopsAt trace .write
  mutated : ∀ stage ∈ error.stage?, stage = .mutated ↔ StopsAt trace .append
  recorded : ∀ stage ∈ error.stage?, stage = .recorded ↔ StopsAt trace .commit
  never : ∀ stage ∈ error.stage?, stage ≠ .lockAcquired ∧ stage ≠ .committed ∧ stage ≠ .rolledBack
  /-- The caller hears of a failed step of the store that it took too long, or else the very error
  of the store. -/
  refused : ∀ step refusal, (step, .error refusal) ∈ answers trace →
    StopsAt trace step ∧ error = if refusal.fault = .lockTimeout then .deadlineExceeded step.stage
      else .store step.stage refusal
  /-- Without a failed step of the store, a failure with a stage is an interruption. -/
  interrupted : (∀ step refusal, (step, .error refusal) ∉ answers trace) →
    ∀ stage ∈ error.stage?, error = .deadlineExceeded stage ∨ error = .cancelled stage
  /-- A failure without a stage is about the account, as it was found when its row had been locked.
  -/
  judged : error.stage? = none →
    (error = .notFound posting.account ∧
      ∃ unit given, .answered unit posting.lockRequest (.ok none) given ∈ trace) ∨
    ∃ unit locked given, .answered unit posting.lockRequest (.ok (some locked)) given ∈ trace ∧
      (error = .insufficientFunds posting.account locked.balance posting.amount ∨
        error = .limitExceeded posting.account locked.balance posting.amount)

theorem ofRefusal_eq {posting : Posting} {balance : Money} {refusal : LedgerError}
    (posted : post balance posting.kind posting.amount = .error refusal) :
    PostingError.ofRefusal posting.account balance posting.amount refusal =
      .insufficientFunds posting.account balance posting.amount ∨
      PostingError.ofRefusal posting.account balance posting.amount refusal =
        .limitExceeded posting.account balance posting.amount := by
  have ruling := post_ruling balance ⟨⟨0⟩, none, posting.amount, posting.kind, .epoch⟩
  rw [posted] at ruling
  cases ruling with
  | limited credit => exact .inr rfl
  | uncovered debit => exact .inl rfl

section Accuracy

variable {posting : Posting} {trace : List (Event υ)} {error : PostingError} {step : Step}

theorem stage?_ofInterruption (stage : Stage) (interruption : Interruption) :
    (PostingError.ofInterruption stage interruption).stage? = some stage := by
  cases interruption <;> rfl

theorem stage?_ofStore (stage : Stage) (refusal : StoreError) :
    (PostingError.ofStore stage refusal).stage? = some stage := by
  rw [PostingError.ofStore]
  split <;> rfl

/-- A failure with the stage of the step at which the posting stopped is accurate, if it says the
right thing about the store. -/
theorem accurate_of_stage
    (granted : ∀ passed, (passed, .ok ()) ∈ answers trace ↔ passed ∈ step.earlier)
    (named : error.stage? = some step.stage)
    (refused : ∀ step refusal, (step, .error refusal) ∈ answers trace → StopsAt trace step ∧
      error = if refusal.fault = .lockTimeout then .deadlineExceeded step.stage else
      .store step.stage refusal)
    (interrupted : (∀ step refusal, (step, .error refusal) ∉ answers trace) →
      ∀ stage ∈ error.stage?, error = .deadlineExceeded stage ∨ error = .cancelled stage) :
    Accurate posting trace error := by
  have same : ∀ stage ∈ error.stage?, step.stage = stage := by
    intro stage member
    rw [named] at member
    exact Option.some.inj member
  refine ⟨?idle, ?validated, ?mutated, ?recorded, ?never, refused, interrupted,
    fun unnamed => absurd (named.symm.trans unnamed) nofun⟩
  case never =>
    intro stage member
    rw [← same stage member]
    cases step <;> decide
  all_goals
    intro stage member
    rw [← same stage member]
    simp only [stopsAt_iff granted]
    cases step <;> decide

/-- A failure without a stage is accurate, if it says the right thing about the account. -/
theorem accurate_of_account (unnamed : error.stage? = none)
    (unfailed : ∀ step refusal, (step, .error refusal) ∉ answers trace)
    (judged : (error = .notFound posting.account ∧
      ∃ unit given, .answered unit posting.lockRequest (.ok none) given ∈ trace) ∨
        ∃ unit locked given, .answered unit posting.lockRequest (.ok (some locked)) given ∈ trace ∧
        (error = .insufficientFunds posting.account locked.balance posting.amount ∨
          error = .limitExceeded posting.account locked.balance posting.amount)) :
    Accurate posting trace error := by
  refine ⟨?idle, ?validated, ?mutated, ?recorded, ?never,
    fun _ _ member => absurd member (unfailed _ _), fun _ => ?interrupted, fun _ => judged⟩
  all_goals
    rw [unnamed]
    exact fun stage member => nomatch member

theorem Explains.accurate (explains : Explains posting trace error) :
    Accurate posting trace error := by
  have unfailed : ∀ {step : Step}, answers trace = goodAnswers step →
      ∀ other refusal, (other, .error refusal) ∉ answers trace := by
    intro step before other refusal member
    rw [before, mem_goodAnswers] at member
    cases member.2
  cases explains with
  | interrupted interruption before =>
      refine accurate_of_stage (fun passed => ?_) (stage?_ofInterruption _ _)
        (fun _ _ member => absurd member (unfailed before _ _)) ?_
      · rw [before, mem_goodAnswers, and_iff_left rfl]
      · intro _ stage member
        rw [stage?_ofInterruption] at member
        cases member
        cases interruption with
        | deadlineExceeded => exact .inl rfl
        | cancelled => exact .inr rfl
  | @refused step refusal before =>
      have granted : ∀ passed, (passed, .ok ()) ∈ answers trace ↔ passed ∈ step.earlier := by
        intro passed
        rw [before, List.mem_append, mem_goodAnswers, and_iff_left rfl, List.mem_singleton]
        exact or_iff_left fun same => nomatch same
      refine accurate_of_stage granted (stage?_ofStore _ _) (fun other error member => ?_)
        fun unfailed => ?_
      · rw [before, List.mem_append, mem_goodAnswers, List.mem_singleton] at member
        rcases member with ⟨-, good⟩ | same
        · cases good
        · cases same
          exact ⟨(stopsAt_iff granted).mpr rfl, rfl⟩
      · have member : (step, .error refusal) ∈ answers trace :=
          before ▸ List.mem_append_right _ (List.mem_singleton_self _)
        exact absurd member (unfailed _ _)
  | missing before locked =>
      exact accurate_of_account rfl (unfailed before) (.inl ⟨rfl, _, _, locked⟩)
  | @forbidden unit given account refusal before locked posted =>
      have kind := ofRefusal_eq posted
      refine accurate_of_account ?_ (unfailed before) (.inr ⟨unit, account, given, locked, kind⟩)
      rcases kind with same | same <;> rw [same] <;> rfl

end Accuracy

/-- Over every store, whatever it answers and whenever the caller is interrupted, a failure says
where the posting stopped and why. -/
theorem accurate_run {behind : LedgerStore σ υ π} {posting : Posting} {error : PostingError}
    {world : World (Traced σ υ)} (reached : Reaches behind posting (.ended (.error error)) world) :
    Accurate posting world.store.trace error :=
  (ends_run reached).explains.accurate

end Passbook.Calls
