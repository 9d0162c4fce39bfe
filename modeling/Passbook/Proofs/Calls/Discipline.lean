import Passbook.Memory.Store
import Passbook.Proofs.Calls.Order
import Passbook.Proofs.Shared.State

/-!
The discipline of a posting towards its store. Besides making its calls in order, a posting closes a
unit that it has opened exactly once: by a commit if everything was granted in time, by a rollback
that it waits for if it failed while the caller was waiting, and by dropping the unit if the caller
was not.
-/

set_option autoImplicit false

namespace Passbook.Calls

variable {σ υ π : Type}

/-- Everything that a commit needs has been granted, and the caller was still waiting when the last
of it was. -/
inductive Complete (posting : Posting) (unit : υ) (trace : List (Event υ)) : Prop
  | intro {account : Account} {balance : Money} {entry : Entry}
      {locked written appended : World Unit}
      (lock : .answered unit posting.lockRequest (.ok (some account)) locked ∈ trace)
      (posted : post account.balance posting.kind posting.amount = .ok balance)
      (write : .answered unit (posting.balanceRequest balance) (.ok ()) written ∈ trace)
      (append : .answered unit posting.entryRequest (.ok entry) appended ∈ trace)
      (goesOn : posting.context.interruption appended = none)

/-- A posting has failed without coming to its commit. -/
structure FailsEarly (unit : υ) (trace : List (Event υ)) (result : Posting.Result)
    (error : PostingError) : Prop where
  failed : result = .error error
  uncommitted : .issued (.finishing unit .commit) ∉ trace

/-- The end of the unit of a posting that has ended. -/
structure Closed (posting : Posting) (trace : List (Event υ)) (result : Posting.Result)
    (unit : υ) : Prop where
  once : ∃ closing, closings trace = [(unit, closing)]
  commit : .issued (.finishing unit .commit) ∈ trace ↔ Complete posting unit trace
  rollback : .issued (.finishing unit .rollback) ∈ trace ↔
    ∃ error, FailsEarly unit trace result error ∧ error.kind ≠ .timeout ∧ error.kind ≠ .cancelled
  drop : .dropped unit ∈ trace ↔
    ∃ error, FailsEarly unit trace result error ∧ (error.kind = .timeout ∨ error.kind = .cancelled)
  /-- The answer to a commit or a rollback is waited for. -/
  awaited : ∀ ending, .issued (.finishing unit ending) ∈ trace →
    ∃ answer, .finished unit ending answer ∈ trace
  /-- The store's own timeout counts as the caller's. -/
  timeout : ∀ request error given,
    .answered unit request (.error error) given ∈ trace → error.fault = .lockTimeout →
      .dropped unit ∈ trace

/-- The end of the unit of a posting that has been given up: no answer about its end was waited for,
and it is dropped. -/
structure Abandoned (trace : List (Event υ)) (unit : υ) : Prop where
  last : ∃ before, trace = before ++ [.dropped unit] ∧ .dropped unit ∉ before ∧
    (closings before).length ≤ 1
  unawaited : ∀ ending answer, .finished unit ending answer ∉ trace

/-- What is known about closing units, by how far the posting has come. -/
def Concluded (posting : Posting) (trace : List (Event υ)) : Standing υ π → Prop
  | .runs _ => (closings trace).length ≤ 1
  | .ended result => ∀ unit, .opened (.ok unit) ∈ trace → Closed posting trace result unit
  | .abandoned => ∀ unit, .opened (.ok unit) ∈ trace → Abandoned trace unit

/-! ## What a commit needs -/

section Complete

variable {posting : Posting} {unit other : υ} {done : List (Event υ)} {request asked : Request}
  {stage : Stage}

theorem answered_mem_exchange (answer : Except StoreError request.Reply) (given : World Unit) :
    .answered unit request answer given ∈ exchange unit request answer given :=
  List.mem_cons_of_mem _ List.mem_cons_self

/-- An answer that had not been given before an exchange is the answer of the exchange. -/
theorem eq_of_answered {reply : Except StoreError asked.Reply}
    {answer : Except StoreError request.Reply} {given now : World Unit}
    (answered : .answered other asked reply now ∈ done ++ exchange unit request answer given)
    (unheard : .answered other asked reply now ∉ done) :
    Event.answered other asked reply now = .answered unit request answer given := by
  rcases List.mem_append.mp answered with early | late
  · exact absurd early unheard
  · rcases List.mem_cons.mp late with issued | last
    · cases issued
    · exact List.mem_singleton.mp last

/-- What is yet to be granted has not been granted. -/
theorem Ready.unrecorded (ready : Ready posting unit done request stage)
    (answer : Except StoreError posting.entryRequest.Reply) (given : World Unit) :
    .answered unit posting.entryRequest answer given ∉ done := by
  intro answered
  induction ready with
  | lock => simp [begun] at answered
  | balance _ _ _ ih => cases eq_of_answered answered ih
  | entry _ _ ih => cases eq_of_answered answered ih

theorem Ready.unfailed (ready : Ready posting unit done request stage) (error : StoreError)
    (given : World Unit) :
    .answered other asked (.error error) given ∉ done := by
  intro answered
  induction ready with
  | lock => simp [begun] at answered
  | balance _ _ _ ih => cases eq_of_answered answered ih
  | entry _ _ ih => cases eq_of_answered answered ih

theorem Recorded.unfailed (recorded : Recorded posting unit done) (error : StoreError)
    (given : World Unit) :
    .answered other asked (.error error) given ∉ done := by
  intro answered
  cases recorded with
  | entry ready _ _ => cases eq_of_answered answered (ready.unfailed error given)

theorem Recorded.complete (recorded : Recorded posting unit done) : Complete posting unit done := by
  cases recorded with
  | entry ready entry goesOn =>
      cases ready with
      | entry ready written =>
          cases ready with
          | balance ready locked posted =>
              exact ⟨List.mem_append_left _ (List.mem_append_left _ (List.mem_append_right _
                  (answered_mem_exchange _ locked))), posted,
                List.mem_append_left _ (List.mem_append_right _ (answered_mem_exchange _ written)),
                List.mem_append_right _ (answered_mem_exchange _ _), goesOn⟩

/-- A posting that fails although its entry has been granted was interrupted by then. -/
theorem Fails.interrupted_of_recorded {cause : PostingError} (fails : Fails posting unit done cause)
    {entry : Entry} {given : World Unit}
    (recorded : .answered unit posting.entryRequest (.ok entry) given ∈ done) :
    posting.context.interruption given ≠ none := by
  cases fails with
  | interrupted ready isTried _ =>
      have early := by simpa [issue] using recorded
      exact absurd early (ready.unrecorded _ given)
  | refused ready _ _ => cases eq_of_answered recorded (ready.unrecorded _ given)
  | missing ready _ => cases eq_of_answered recorded (ready.unrecorded _ given)
  | forbidden ready _ _ => cases eq_of_answered recorded (ready.unrecorded _ given)
  | late ready _ interrupted =>
      cases eq_of_answered recorded (ready.unrecorded _ given)
      intro goesOn
      rw [interrupted] at goesOn
      cases goesOn

theorem Fails.incomplete {cause : PostingError} (fails : Fails posting unit done cause) :
    ¬ Complete posting unit done := by
  rintro ⟨_, _, _, append, goesOn⟩
  exact fails.interrupted_of_recorded append goesOn

/-- The failure of a posting whose store timed out is a timeout. -/
theorem Fails.interruption_of_timeout {cause : PostingError} (fails : Fails posting unit done cause)
    {error : StoreError} {given : World Unit}
    (answered : .answered other asked (.error error) given ∈ done)
    (timeout : error.fault = .lockTimeout) : cause.isInterruption = true := by
  cases fails with
  | interrupted ready isTried _ =>
      have early := by simpa [issue] using answered
      exact absurd early (ready.unfailed error given)
  | refused ready _ _ =>
      cases eq_of_answered answered (ready.unfailed error given)
      rw [PostingError.ofStore, if_pos timeout]
      rfl
  | missing ready _ => cases eq_of_answered answered (ready.unfailed error given)
  | forbidden ready _ _ => cases eq_of_answered answered (ready.unfailed error given)
  | late ready _ _ => cases eq_of_answered answered (ready.unfailed error given)

theorem complete_append {tail : List (Event υ)}
    (silent : ∀ asked reply now, Event.answered unit asked reply now ∉ tail) :
    Complete posting unit (done ++ tail) ↔ Complete posting unit done := by
  constructor
  · rintro ⟨lock, posted, write, append, goesOn⟩
    have locked := (List.mem_append.mp lock).resolve_right (silent _ _ _)
    have written := (List.mem_append.mp write).resolve_right (silent _ _ _)
    have appended := (List.mem_append.mp append).resolve_right (silent _ _ _)
    exact ⟨locked, posted, written, appended, goesOn⟩
  · rintro ⟨lock, posted, write, append, goesOn⟩
    have locked := List.mem_append_left tail lock
    have written := List.mem_append_left tail write
    have appended := List.mem_append_left tail append
    exact ⟨locked, posted, written, appended, goesOn⟩

end Complete

/-! ## The end of a unit -/

section Closed

variable {posting : Posting} {unit : υ} {done : List (Event υ)}

theorem isInterruption_iff (error : PostingError) :
    error.isInterruption = true ↔ error.kind = .timeout ∨ error.kind = .cancelled := by
  unfold PostingError.isInterruption
  cases error.kind <;> simp

theorem not_answered_conclusion (ending : Ending) (answer : Except StoreError Unit)
    (asked : Request) (reply : Except StoreError asked.Reply) (now : World Unit) :
    Event.answered unit asked reply now ∉ conclusion unit ending answer := by
  simp [conclusion]

theorem not_answered_dropped (asked : Request) (reply : Except StoreError asked.Reply)
    (now : World Unit) :
    Event.answered unit asked reply now ∉ [Event.dropped unit] := by
  simp

theorem Recorded.closed (recorded : Recorded posting unit done) (answer : Except StoreError Unit)
    (result : Posting.Result) :
    Closed posting (done ++ conclusion unit .commit answer) result unit where
  once := ⟨.commit, by rw [closings_append, recorded.unclosed.closings]; rfl⟩
  commit := by
    rw [complete_append (not_answered_conclusion .commit answer)]
    exact iff_of_true (List.mem_append_right _ List.mem_cons_self) recorded.complete
  rollback := by
    constructor
    · intro issued
      simp [conclusion, recorded.unclosed.not_issued] at issued
    · rintro ⟨error, early, _⟩
      exact absurd (List.mem_append_right _ List.mem_cons_self) early.uncommitted
  drop := by
    constructor
    · intro dropped
      simp [conclusion, recorded.unclosed.not_dropped] at dropped
    · rintro ⟨error, early, _⟩
      exact absurd (List.mem_append_right _ List.mem_cons_self) early.uncommitted
  awaited := by
    intro ending issued
    have same : ending = .commit := by simpa [conclusion, recorded.unclosed.not_issued] using issued
    rw [same]
    exact ⟨answer, by simp [conclusion]⟩
  timeout := by
    intro request error given answered
    have early := by simpa [conclusion] using answered
    exact absurd early (recorded.unfailed error given)

theorem Fails.undone {cause : PostingError} (fails : Fails posting unit done cause)
    (awaited : cause.isInterruption = false) (answer : Except StoreError Unit) :
    Closed posting (done ++ conclusion unit .rollback answer) (.error cause) unit where
  once := ⟨.rollback, by rw [closings_append, fails.unclosed.closings]; rfl⟩
  commit := by
    rw [complete_append (not_answered_conclusion .rollback answer)]
    apply iff_of_false _ fails.incomplete
    simp [conclusion, fails.unclosed.not_issued]
  rollback := by
    have other : ¬ (cause.kind = .timeout ∨ cause.kind = .cancelled) := by
      intro interrupted
      rw [← isInterruption_iff, awaited] at interrupted
      cases interrupted
    apply iff_of_true
    · exact List.mem_append_right _ List.mem_cons_self
    · refine ⟨cause, ⟨rfl, ?_⟩,
        fun timeout => other (.inl timeout), fun cancelled => other (.inr cancelled)⟩
      simp [conclusion, fails.unclosed.not_issued]
  drop := by
    apply iff_of_false
    · simp [conclusion, fails.unclosed.not_dropped]
    · rintro ⟨error, ⟨failed, _⟩, interrupted⟩
      cases failed
      rw [← isInterruption_iff, awaited] at interrupted
      cases interrupted
  awaited := by
    intro ending issued
    have same : ending = .rollback := by simpa [conclusion, fails.unclosed.not_issued] using issued
    rw [same]
    exact ⟨answer, by simp [conclusion]⟩
  timeout := by
    intro request error given answered timeout
    have early := by simpa [conclusion] using answered
    rw [fails.interruption_of_timeout early timeout] at awaited
    cases awaited

theorem Fails.dropped {cause : PostingError} (fails : Fails posting unit done cause)
    (unawaited : cause.isInterruption = true) :
    Closed posting (done ++ [.dropped unit]) (.error cause) unit where
  once := ⟨.drop, by rw [closings_append, fails.unclosed.closings]; rfl⟩
  commit := by
    rw [complete_append not_answered_dropped]
    apply iff_of_false _ fails.incomplete
    simp [fails.unclosed.not_issued]
  rollback := by
    apply iff_of_false
    · simp [fails.unclosed.not_issued]
    · rintro ⟨error, ⟨failed, _⟩, timeout, cancelled⟩
      cases failed
      rcases (isInterruption_iff cause).mp unawaited with other | other
      · exact timeout other
      · exact cancelled other
  drop := by
    apply iff_of_true
    · exact List.mem_append_right _ List.mem_cons_self
    · refine ⟨cause, ⟨rfl, ?_⟩, (isInterruption_iff cause).mp unawaited⟩
      simp [fails.unclosed.not_issued]
  awaited := by
    intro ending issued
    simp [fails.unclosed.not_issued] at issued
  timeout := fun _ _ _ _ _ => List.mem_append_right _ List.mem_cons_self

end Closed

/-! ## Postings that go on or are given up -/

section Open

variable {posting : Posting} {unit : υ} {done : List (Event υ)}

theorem Unclosed.length_closings (unclosed : Unclosed done) : (Calls.closings done).length ≤ 1 := by
  rw [unclosed.closings]
  exact Nat.zero_le 1

theorem length_closings_issue (unclosed : Unclosed done) (isTried : Bool) (ending : Ending) :
    (closings (done ++ issue isTried (.finishing unit ending))).length ≤ 1 := by
  rw [closings_append, unclosed.closings, List.nil_append]
  cases isTried with
  | false => exact Nat.zero_le 1
  | true =>
      cases ending with
      | commit => exact Nat.le_refl 1
      | rollback => exact Nat.le_refl 1

/-- A posting that is given up while it closes its unit does not learn what comes of that. -/
theorem abandoned_closing (unclosed : Unclosed done) (isTried : Bool) (ending : Ending) :
    Abandoned (done ++ issue isTried (.finishing unit ending) ++ [.dropped unit]) unit where
  last :=
    ⟨_, rfl, by simp [issue, unclosed.not_dropped], length_closings_issue unclosed isTried ending⟩
  unawaited := by
    intro other answer
    simp [issue, unclosed.not_finished]

theorem Ready.abandoned {request : Request} {stage : Stage}
    (ready : Ready posting unit done request stage) (isTried : Bool) :
    Abandoned (done ++ issue isTried (.asking unit request) ++ [.dropped unit]) unit := by
  have unclosed := ready.unclosed.append (unclosed_issue_asking isTried unit request)
  refine ⟨⟨_, rfl, unclosed.not_dropped unit, unclosed.length_closings⟩, ?_⟩
  intro other answer answered
  rcases List.mem_append.mp answered with early | late
  · exact unclosed.not_finished unit other answer early
  · cases List.mem_singleton.mp late

theorem Story.concluded {standing : Standing υ π} {trace : List (Event υ)}
    (story : Story posting standing trace) :
    Concluded posting trace standing := by
  cases story with
  | opening progress => exact (unclosed_issue_opening progress.isSome).length_closings
  | locking ready progress =>
      exact (ready.unclosed.append (unclosed_issue_asking progress.isSome _ _)).length_closings
  | writing ready progress =>
      exact (ready.unclosed.append (unclosed_issue_asking progress.isSome _ _)).length_closings
  | appending ready _ progress =>
      exact (ready.unclosed.append (unclosed_issue_asking progress.isSome _ _)).length_closings
  | committing recorded _ progress =>
      exact length_closings_issue recorded.unclosed progress.isSome .commit
  | undoing fails _ progress => exact length_closings_issue fails.unclosed progress.isSome .rollback
  | unopened isTried _ =>
      intro unit opened
      simp [issue] at opened
  | refusedOpening refusal _ =>
      intro unit opened
      simp at opened
  | @committed own before recorded answer result =>
      intro unit opened
      have same : unit = own := by simpa [conclusion, recorded.opened] using opened
      rw [same]
      exact recorded.closed answer result
  | @undone own failed cause fails awaited answer =>
      intro unit opened
      have same : unit = own := by simpa [conclusion, fails.opened] using opened
      rw [same]
      exact fails.undone awaited answer
  | @dropped own failed cause fails unawaited =>
      intro unit opened
      have same : unit = own := by simpa [fails.opened] using opened
      rw [same]
      exact fails.dropped unawaited
  | abandonedEarly isTried =>
      intro unit opened
      simp [issue] at opened
  | @abandonedAsking own before request stage ready isTried =>
      intro unit opened
      have same : unit = own := by simpa [issue, ready.opened] using opened
      rw [same]
      exact ready.abandoned isTried
  | @abandonedCommitting own before recorded isTried =>
      intro unit opened
      have same : unit = own := by simpa [issue, recorded.opened] using opened
      rw [same]
      exact abandoned_closing recorded.unclosed isTried .commit
  | @abandonedUndoing own failed cause fails isTried =>
      intro unit opened
      have same : unit = own := by simpa [issue, fails.opened] using opened
      rw [same]
      exact abandoned_closing fails.unclosed isTried .rollback

end Open

/-- Over every store, whatever it answers and whenever the caller is interrupted, a posting makes
its calls in order and closes a unit that it has opened exactly once, in the way that its course
demands. -/
theorem calls_disciplined {behind : LedgerStore σ υ π} {posting : Posting} {standing : Standing υ π}
    {world : World (Traced σ υ)} (reached : Reaches behind posting standing world) :
    Orderly posting world.store.trace ∧ Concluded posting world.store.trace standing := by
  have story := story_run reached
  exact ⟨story.orderly, story.concluded⟩

/-- A credit of one unit over a ledger with one account, tried once. -/
def sampleCredit :
    Poll (Posting.Phase UnitId (Option Memory.Progress)) Posting.Result ×
      World (Traced Memory UnitId) :=
  (Shared.sampleMovement .credit).tryPost (Traced.store Memory.store)
    (Posting.start (Traced.store Memory.store))
    ⟨0, [], ⟨{ Memory.empty with accounts := [⟨⟨1⟩, "alice", "hash", .zero⟩] }, []⟩, []⟩

theorem calls_disciplined_sample :
    closings sampleCredit.2.store.trace = [(⟨1⟩, .commit)] ∧
      Closed (Shared.sampleMovement .credit) sampleCredit.2.store.trace
        (.ok ⟨⟨1⟩, .ofDecimal ⟨false, 1, 0, by decide, by decide⟩⟩) ⟨1⟩ := by
  have reached : Reaches Memory.store (Shared.sampleMovement .credit)
      (.ofPoll sampleCredit.1) sampleCredit.2 :=
    Reaches.tries (.start rfl)
  have disciplined := calls_disciplined reached
  refine ⟨rfl, disciplined.2 ⟨1⟩ ?_⟩
  exact List.mem_cons_of_mem _ List.mem_cons_self

end Passbook.Calls
