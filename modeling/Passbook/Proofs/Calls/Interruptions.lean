import Passbook.Call.Posting
import Passbook.Proofs.Calls.Bounds
import Passbook.Proofs.Calls.Polling

/-!
Two ways to observe an interruption: to look at the bounds of a call, and to wait. Whatever happens
to tokens and to the clock, a wait is answered at the first moment at which looking shows an
interruption, with the reason that it shows.
-/

set_option autoImplicit false

namespace Passbook

variable {σ π τ : Type}

/-- What can happen from one moment to the next. -/
inductive Occurrence (σ : Type)
  | wait (milliseconds : Nat)
  | use (token : Token)
  /-- The holder of a token goes, and with it the last chance to use the token. -/
  | abandon (token : Token)
  /-- Calls do their work. -/
  | work (store : σ) (events : List Log.Event)

namespace Situation

/-- The situation after something has happened. An abandoned token cannot be used. -/
def after (situation : Situation σ) : Occurrence σ → Situation σ
  | .wait milliseconds =>
      { situation with world := { situation.world with now := situation.world.now + milliseconds } }
  | .use token =>
      if situation.abandoned.contains token then situation else
        { situation with world := situation.world.cancel token }
  | .abandon token => { situation with abandoned := token :: situation.abandoned }
  | .work store events => { situation with world := { situation.world with store, events } }

theorem leads_use {situation : Situation σ} {token : Token}
    (held : situation.abandoned.contains token = false) :
    situation.Leads { situation with world := situation.world.cancel token } where
  clock := Nat.le_refl _
  signals other := by
    by_cases same : other = token
    · subst same
      have present : (situation.signal other).isAbandoned = false := held
      exact {
        uses_le := by simp [signal, World.cancel]
        same := by simp [signal, World.cancel]
        used := by simp [signal, World.cancel, World.isCancelled]
        abandoned := by simp [present] }
    · have unchanged : signal { situation with world := situation.world.cancel token } other =
          situation.signal other := by
        simp [signal, World.cancel, World.isCancelled, same, Ne.symm same]
      rw [unchanged]
      exact .refl _

theorem leads_after (situation : Situation σ) (occurrence : Occurrence σ) :
    situation.Leads (situation.after occurrence) := by
  cases occurrence with
  | wait milliseconds => exact ⟨Nat.le_add_right _ _, fun token => .refl (situation.signal token)⟩
  | use token =>
      simp only [after]
      split
      · exact .refl situation
      · next held => exact leads_use (by simpa using held)
  | abandon token =>
      refine ⟨Nat.le_refl _,
        fun other => ⟨Nat.le_refl _, fun _ => rfl, fun used => used, fun gone => ⟨?_, rfl⟩⟩⟩
      simp only [signal, after, List.contains_cons, Bool.or_eq_true] at gone ⊢
      exact .inr gone
  | work store events => exact ⟨Nat.le_refl _, fun token => .refl (situation.signal token)⟩

end Situation

/-- A course of things, from some situation on. -/
structure Schedule (σ : Type) where
  start : Situation σ
  occurs : Nat → Occurrence σ

namespace Schedule

def situation (schedule : Schedule σ) : Nat → Situation σ
  | 0 => schedule.start
  | moment + 1 => (schedule.situation moment).after (schedule.occurs moment)

abbrev world (schedule : Schedule σ) (moment : Nat) : World σ := (schedule.situation moment).world

theorem leads (schedule : Schedule σ) {earlier later : Nat} (le : earlier ≤ later) :
    (schedule.situation earlier).Leads (schedule.situation later) := by
  induction le with
  | refl => exact .refl _
  | step _ ih => exact ih.trans (Situation.leads_after _ _)

variable {schedule : Schedule σ} {context : CallContext} {token : Token} {earlier later : Nat}

/-- What looking at the bounds of a call shows at a moment. -/
def found (schedule : Schedule σ) (context : CallContext) (moment : Nat) : Option Interruption :=
  context.interruption (schedule.world moment)

theorem used_later (le : earlier ≤ later)
    (used : (schedule.world earlier).isCancelled token = true) :
    (schedule.world later).isCancelled token = true :=
  ((schedule.leads le).signals token).used used

/-- An abandoned token is not used any more. -/
theorem unused_later (le : earlier ≤ later) (gone : token ∈ (schedule.situation earlier).abandoned)
    (unused : (schedule.world earlier).isCancelled token = false) :
    (schedule.world later).isCancelled token = false := by
  have leads := (schedule.leads le).signals token
  exact (leads.same (leads.abandoned (List.contains_iff_mem.mpr gone)).2).trans unused

/-- Once looking shows an interruption, it shows one ever after. -/
theorem found_later (le : earlier ≤ later) (interrupted : schedule.found context earlier ≠ none) :
    schedule.found context later ≠ none :=
  CallContext.interrupted_later (schedule.leads le).clock (fun _ => used_later le) interrupted

theorem found_used (known : context.token = some token)
    (used : (schedule.world later).isCancelled token = true) :
    schedule.found context later = some .cancelled := by
  refine CallContext.interruption_eq_cancelled_iff.mpr ?_
  rw [known]
  exact used

theorem found_unused (known : context.token = some token)
    (unused : (schedule.world later).isCancelled token = false) :
    schedule.found context later = schedule.found { context with token := none } later := by
  simp [found, CallContext.interruption, known, unused]

end Schedule

section Agreement

variable {watch : Waiting Nat Signal π Watched} {sleep : Waiting Nat Nat τ Unit}

open CallContext (build interrupted)

/-- How a call with such bounds is interrupted on a schedule. Waits are made of `watch` and `sleep`.
They begin at any moment, on any copy of the context, whatever it has seen of its token. -/
structure Agreement (watch : Waiting Nat Signal π Watched) (sleep : Waiting Nat Nat τ Unit)
    (bounds : List Bound) (schedule : Schedule σ) : Prop where
  /-- The earliest of the deadlines counts, in whatever order the bounds were given. -/
  earliest : (build bounds).deadline.IsEarliest (bounds.filterMap Bound.deadline?)
  in_any_order : ∀ others, others.Perm bounds → (build others).deadline = (build bounds).deadline
  /-- Looking shows that the last token has been used, also when a deadline has passed. -/
  cancelled_iff : ∀ moment, schedule.found (build bounds) moment = some .cancelled ↔
    ∃ token, (bounds.filterMap Bound.token?).getLast? = some token ∧
      (schedule.world moment).isCancelled token = true
  exceeded_iff : ∀ moment, schedule.found (build bounds) moment = some .deadlineExceeded ↔
    schedule.found (build bounds) moment ≠ some .cancelled ∧
      ∃ deadline ∈ bounds.filterMap Bound.deadline?,
        deadline.hasPassed (schedule.world moment).now = true
  lasts : ∀ earlier later, earlier ≤ later →
    schedule.found (build bounds) earlier ≠ none → schedule.found (build bounds) later ≠ none
  /-- A wait that is polled whenever it is woken is answered at the first moment at which looking
  shows an interruption. -/
  at_first : ∀ seen polling, (interrupted watch sleep).IsPrompt (build bounds, seen)
    schedule.situation polling →
    ∀ moment reason, (interrupted watch sleep).AnsweredAt (build bounds, seen) schedule.situation
    polling moment reason ↔
      FirstAnswer (schedule.found (build bounds)) polling.start moment reason
  /-- A wait that is polled before the clock goes on is answered in the millisecond of that moment.
  -/
  in_time : ∀ seen polling,
    (interrupted watch sleep).IsInTime (·.world.now) (build bounds, seen) schedule.situation
      polling → ∀ moment reason,
    FirstAnswer (schedule.found (build bounds)) polling.start moment reason →
    ∃ later also, moment ≤ later ∧ (schedule.world later).now = (schedule.world moment).now ∧
      (interrupted watch sleep).AnsweredAt (build bounds, seen)
        schedule.situation polling later also
  /-- Whenever a wait is polled, its answer is what looking shows at that moment. -/
  as_found : ∀ seen polling moment reason,
    (interrupted watch sleep).AnsweredAt (build bounds, seen) schedule.situation
      polling moment reason →
      schedule.found (build bounds) moment = some reason
  /-- A wait has no end if looking never shows an interruption. -/
  never : ∀ seen polling,
    (∀ moment, polling.start ≤ moment → schedule.found (build bounds) moment = none) →
    ∀ passed, ∃ vigil, (interrupted watch sleep).outcome (build bounds, seen) schedule.situation
    polling passed = .waiting vigil
  /-- A token that is abandoned unused makes no difference from then on. -/
  abandoned_unused : ∀ token earlier, (build bounds).token = some token →
    token ∈ (schedule.situation earlier).abandoned →
    (schedule.world earlier).isCancelled token = false →
    ∀ later, earlier ≤ later → schedule.found (build bounds) later =
      schedule.found { build bounds with token := none } later
  /-- A token that has been used counts, whether it is abandoned or not. -/
  used : ∀ token earlier, (build bounds).token = some token →
    (schedule.world earlier).isCancelled token = true →
    ∀ later, earlier ≤ later → schedule.found (build bounds) later = some .cancelled
  /-- Copies observe the same. -/
  copies : ∀ seen other (polling also : Polling),
    (interrupted watch sleep).IsPrompt (build bounds, seen) schedule.situation polling →
    (interrupted watch sleep).IsPrompt (build bounds, other) schedule.situation also →
      polling.start ≤ also.start →
    (∀ moment, polling.start ≤ moment → moment < also.start → schedule.found (build bounds) moment =
      none) → ∀ moment reason,
    (interrupted watch sleep).AnsweredAt (build bounds, seen) schedule.situation
      polling moment reason ↔
      (interrupted watch sleep).AnsweredAt (build bounds, other)
        schedule.situation also moment reason

/-- Looking at the bounds of a call and waiting for its interruption agree. -/
theorem interruptions_agree (watches : Watches watch) (sleeps : Sleeps sleep) (bounds : List Bound)
    (schedule : Schedule σ) :
    Agreement watch sleep bounds schedule := by
  have heeds :=
    fun seen => CallContext.interrupted_heeds (σ := σ) watches sleeps (build bounds) seen
  have chain : ∀ {earlier later}, earlier ≤ later →
      (schedule.situation earlier).Leads (schedule.situation later) := schedule.leads
  have earliest := CallContext.deadline_build bounds
  exact {
    earliest
    in_any_order := fun _ same => CallContext.deadline_build_perm same
    cancelled_iff := by
      intro moment
      rw [Schedule.found, CallContext.interruption_eq_cancelled_iff, Option.any_eq_true,
        CallContext.token_build]
    exceeded_iff := by
      intro moment
      rw [Schedule.found, CallContext.interruption_eq_deadlineExceeded_iff, Ne,
        CallContext.interruption_eq_cancelled_iff, Bool.not_eq_true, earliest.hasPassed_iff]
    lasts := fun _ _ le => Schedule.found_later le
    at_first := fun seen _ prompt _ _ => (heeds seen).answeredAt_iff chain prompt
    in_time := fun seen _ inTime _ _ first =>
      (heeds seen).answered_in_time chain (·.clock)
        (fun leads => CallContext.interrupted_later leads.clock fun token =>
          (leads.signals token).used) inTime first
    as_found := fun seen _ _ _ answered => (heeds seen).answers chain answered
    never :=
      fun seen _ silent _ =>
        (heeds seen).waits_while_silent chain fun moment after _ => silent moment after
    abandoned_unused :=
      fun _ _ known gone unused _ le =>
        Schedule.found_unused known (Schedule.unused_later le gone unused)
    used := fun _ _ known used _ le => Schedule.found_used known (Schedule.used_later le used)
    copies := by
      intro seen other polling also prompt alsoPrompt le silent moment reason
      rw [(heeds seen).answeredAt_iff chain prompt, (heeds other).answeredAt_iff chain alsoPrompt]
      exact FirstAnswer.later le silent }

/-!
## A sample
-/

def sampleBounds : List Bound := [.timeout 0 60, .token ⟨2⟩, .deadline ⟨some 10⟩, .token ⟨1⟩]

/-- The first token is abandoned, the one that counts is used and then abandoned, and at last the
deadline passes. -/
def sampleSchedule : Schedule Unit where
  start := ⟨⟨0, [], (), []⟩, []⟩
  occurs moment := [.wait 4, .abandon ⟨2⟩, .use ⟨1⟩, .abandon ⟨1⟩, .wait 6].getD moment (.wait 0)

theorem sample_isPrompt :
    (interrupted Watch.watching .sleeping).IsPrompt (build sampleBounds, 0)
      sampleSchedule.situation ⟨0, (· == 3)⟩ := by
  intro passed vigil waits woken
  match passed with
  | 0 =>
      cases waits
      cases woken
  | 1 =>
      cases waits
      cases woken
  | 2 => rfl
  | more + 3 =>
      obtain ⟨_, rests⟩ := Waiting.outcome_since (Nat.le_add_left 3 more) waits
      cases rests

/-- A wait that is polled when it begins and when its token is used is answered then. -/
theorem interruptions_agree_sample :
    Watches Watch.watching ∧ Sleeps Waiting.sleeping ∧
      Agreement Watch.watching .sleeping sampleBounds sampleSchedule ∧
      (interrupted Watch.watching .sleeping).AnsweredAt (build sampleBounds, 0)
        sampleSchedule.situation ⟨0, (· == 3)⟩ 3 .cancelled := by
  have agree := interruptions_agree Watch.watches Waiting.sleeps sampleBounds sampleSchedule
  refine ⟨Watch.watches, Waiting.sleeps, agree,
    (agree.at_first 0 _ sample_isPrompt 3 .cancelled).mpr ⟨by decide, by decide, ?_⟩⟩
  intro earlier _ before
  match earlier with
  | 0 => rfl
  | 1 => rfl
  | 2 => rfl
  | more + 3 => exact absurd before (by omega)

end Agreement

/-!
## Steps of postings
-/

namespace Posting

variable {κ α : Type} {watch : Waiting Nat Signal π Watched} {sleep : Waiting Nat Nat τ Unit}

/-- Tries a store call beside a wait for an interruption. The wait is polled first, and its answer
gives the call up. -/
def beside (watch : Waiting Nat Signal π Watched) (sleep : Waiting Nat Nat τ Unit) (stage : Stage)
    (giveUp : World σ → World σ) (call : World σ → Poll κ (Except StoreError α) × World σ)
    (vigil : Vigil π τ) (situation : Situation σ) :
    Poll (Vigil π τ × κ) (Except PostingError α) × World σ :=
  match (CallContext.interrupted watch sleep).poll vigil situation with
  | .ready reason => (.ready (.error (.ofInterruption stage reason)), giveUp situation.world)
  | .waiting vigil =>
      match call situation.world with
      | (.waiting progress, world) => (.waiting (vigil, progress), world)
      | (.ready result, world) => (.ready (result.mapError (.ofStore stage)), world)

/-- What has become of the call alone. -/
def alone {ρ : Type} : Poll (Vigil π τ × κ) ρ × World σ → Poll κ ρ × World σ
  | (.waiting (_, progress), world) => (.waiting progress, world)
  | (.ready result, world) => (.ready result, world)

/-- A step that is guarded by a look at the bounds of the caller is a step beside a wait, however
long the wait has been going on. So a step and the decision to commit judge alike. -/
theorem guarded_eq_beside (watches : Watches watch) (sleeps : Sleeps sleep) (posting : Posting)
    {seen : Nat} {vigil : Vigil π τ} {last : Option (Situation σ)} {situation : Situation σ}
    (stands : (CallContext.interrupted watch sleep).Stands Situation.Leads
      (posting.context, seen) vigil last)
    (since : ∀ earlier ∈ last, Situation.Leads earlier situation) (stage : Stage)
    (giveUp : World σ → World σ) (call : World σ → Poll κ (Except StoreError α) × World σ) :
    posting.guarded stage giveUp call situation.world =
      alone (beside watch sleep stage giveUp call vigil situation) := by
  have heeds := CallContext.interrupted_heeds (σ := σ) watches sleeps posting.context seen
  simp only [guarded, beside]
  split
  · next reason found =>
      rw [(heeds.ready_iff stands since reason).mpr found]
      rfl
  · next none =>
      cases polled : (CallContext.interrupted watch sleep).poll vigil situation with
      | ready reason =>
          rw [(heeds.ready_iff stands since reason).mp polled] at none
          cases none
      | waiting vigil => rcases call situation.world with ⟨progress | result, world⟩ <;> rfl

end Posting

end Passbook
