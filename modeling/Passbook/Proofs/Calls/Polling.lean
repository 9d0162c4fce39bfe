import Mathlib.Data.Nat.Find
import Passbook.Proofs.Calls.Waiting

/-!
Waits in the course of time. A wait is polled when it begins and at some later moments, and its
answer is that of the moment of a poll. If it is polled whenever it is woken, it is answered at the
first moment at which there is an answer, and if it is only polled before the clock goes on, then in
the same millisecond.
-/

set_option autoImplicit false

namespace Passbook

/-- When a wait begins, and at which moments it is polled from then on. -/
structure Polling where
  start : Nat
  polls : Nat → Bool

/-- The first answer from some moment on. -/
structure FirstAnswer {ρ : Type} (answer : Nat → Option ρ) (start moment : Nat)
    (result : ρ) : Prop where
  le : start ≤ moment
  answers : answer moment = some result
  silent : ∀ earlier, start ≤ earlier → earlier < moment → answer earlier = none

/-- What comes before a first answer makes no difference. -/
theorem FirstAnswer.later {ρ : Type} {answer : Nat → Option ρ} {start later moment : Nat}
    {result : ρ} (le : start ≤ later)
    (silent : ∀ moment, start ≤ moment → moment < later → answer moment = none) :
    FirstAnswer answer start moment result ↔ FirstAnswer answer later moment result := by
  constructor
  · intro first
    refine ⟨?_, first.answers, fun between after => first.silent between (Nat.le_trans le after)⟩
    by_contra before
    have none := silent moment first.le (Nat.lt_of_not_le before)
    rw [first.answers] at none
    cases none
  · intro first
    refine ⟨Nat.le_trans le first.le, first.answers, fun between after before => ?_⟩
    rcases Nat.lt_or_ge between later with early | late
    · exact silent between after early
    · exact first.silent between late before

namespace Waiting

variable {α ω π ρ : Type}

/-- What has become of a wait some moments after it began. -/
def outcome (waiting : Waiting α ω π ρ) (argument : α) (scenes : Nat → ω)
    (polling : Polling) : Nat → Poll π ρ
  | 0 => waiting.poll (waiting.fresh argument) (scenes polling.start)
  | passed + 1 =>
      match waiting.outcome argument scenes polling passed with
      | .waiting progress =>
          if polling.polls (polling.start + passed + 1) then
            waiting.poll progress (scenes (polling.start + passed + 1))
          else .waiting progress
      | .ready result => .ready result

/-- A wait is answered at a moment and not before. -/
structure AnsweredAt (waiting : Waiting α ω π ρ) (argument : α) (scenes : Nat → ω)
    (polling : Polling) (moment : Nat) (result : ρ) : Prop where
  le : polling.start ≤ moment
  ready : waiting.outcome argument scenes polling (moment - polling.start) = .ready result
  waits : ∀ passed, polling.start + passed < moment →
    ∃ progress, waiting.outcome argument scenes polling passed = .waiting progress

/-- A wait is polled at every moment at which it has been woken. -/
def IsPrompt (waiting : Waiting α ω π ρ) (argument : α) (scenes : Nat → ω)
    (polling : Polling) : Prop :=
  ∀ passed progress, waiting.outcome argument scenes polling passed = .waiting progress →
    waiting.isWoken progress (scenes (polling.start + passed + 1)) = true →
      polling.polls (polling.start + passed + 1) = true

/-- A wait that has been woken is polled before the clock goes on. -/
def IsInTime (waiting : Waiting α ω π ρ) (clock : ω → Nat) (argument : α) (scenes : Nat → ω)
    (polling : Polling) : Prop :=
  ∀ passed progress, waiting.outcome argument scenes polling passed = .waiting progress →
    waiting.isWoken progress (scenes (polling.start + passed + 1)) = true →
    ∃ moment, polling.start + passed + 1 ≤ moment ∧ polling.polls moment = true ∧
      clock (scenes moment) = clock (scenes (polling.start + passed + 1))

section Outcome

variable {waiting : Waiting α ω π ρ} {argument : α} {scenes : Nat → ω} {polling : Polling}
  {passed : Nat} {progress : π} {result : ρ}

theorem outcome_polled (rests : waiting.outcome argument scenes polling passed = .waiting progress)
    (polls : polling.polls (polling.start + passed + 1) = true) :
    waiting.outcome argument scenes polling (passed + 1) =
      waiting.poll progress (scenes (polling.start + passed + 1)) := by
  simp [outcome, rests, polls]

theorem outcome_unpolled
    (rests : waiting.outcome argument scenes polling passed = .waiting progress)
    (unpolled : polling.polls (polling.start + passed + 1) = false) :
    waiting.outcome argument scenes polling (passed + 1) = .waiting progress := by
  simp [outcome, rests, unpolled]

/-- A wait that goes on has been going on before. -/
theorem outcome_before
    (rests : waiting.outcome argument scenes polling (passed + 1) = .waiting progress) :
    ∃ before, waiting.outcome argument scenes polling passed = .waiting before := by
  cases known : waiting.outcome argument scenes polling passed with
  | waiting before => exact ⟨before, rfl⟩
  | ready result => simp [outcome, known] at rests

theorem outcome_since {earlier : Nat} (le : earlier ≤ passed)
    (rests : waiting.outcome argument scenes polling passed = .waiting progress) :
    ∃ before, waiting.outcome argument scenes polling earlier = .waiting before := by
  induction passed generalizing progress with
  | zero => exact ⟨progress, Nat.le_zero.mp le ▸ rests⟩
  | succ passed ih =>
      rcases Nat.le_succ_iff.mp le with before | rfl
      · obtain ⟨_, rested⟩ := outcome_before rests
        exact ih before rested
      · exact ⟨progress, rests⟩

/-- A wait that is not polled goes on. -/
theorem outcome_idle (rests : waiting.outcome argument scenes polling passed = .waiting progress)
    {more : Nat}
    (unpolled : ∀ fewer < more, polling.polls (polling.start + passed + 1 + fewer) = false) :
    waiting.outcome argument scenes polling (passed + more) = .waiting progress := by
  induction more with
  | zero => exact rests
  | succ more ih =>
      have before := ih fun fewer lt => unpolled fewer (Nat.lt_succ_of_lt lt)
      have place : polling.start + (passed + more) + 1 = polling.start + passed + 1 + more := by
        omega
      exact outcome_unpolled before (place ▸ unpolled more (Nat.lt_succ_self _))

theorem exists_first_poll {polls : Nat → Bool} {moment less : Nat}
    (polled : polls (moment + less) = true) :
    ∃ more ≤ less, polls (moment + more) = true ∧
      ∀ fewer < more, polls (moment + fewer) = false := by
  have found : ∃ more, polls (moment + more) = true := ⟨less, polled⟩
  refine ⟨Nat.find found, Nat.find_min' found polled, Nat.find_spec found, fun fewer before => ?_⟩
  exact Bool.eq_false_iff.mpr (Nat.find_min found before)

/-- A wait that has been answered was answered at some moment. -/
theorem exists_answeredAt (ready : waiting.outcome argument scenes polling passed = .ready result) :
    ∃ moment ≤ polling.start + passed,
      waiting.AnsweredAt argument scenes polling moment result := by
  induction passed with
  | zero =>
      exact ⟨polling.start, Nat.le_refl _, Nat.le_refl _, by rwa [Nat.sub_self],
        fun passed before => by omega⟩
  | succ passed ih =>
      cases known : waiting.outcome argument scenes polling passed with
      | ready found =>
          have same : found = result := by simpa [outcome, known] using ready
          obtain ⟨moment, le, answered⟩ := ih (same ▸ known)
          exact ⟨moment, Nat.le_succ_of_le le, answered⟩
      | waiting progress =>
          refine ⟨polling.start + (passed + 1), Nat.le_refl _, Nat.le_add_right _ _, ?_, ?_⟩
          · rwa [Nat.add_sub_cancel_left]
          · exact fun earlier before => outcome_since (by omega) known

variable {leads : ω → ω → Prop}

/-- What a wait that goes on observed last, it observed since it began. -/
theorem outcome_stands
    (chain : ∀ {earlier later}, earlier ≤ later → leads (scenes earlier) (scenes later))
    (rests : waiting.outcome argument scenes polling passed = .waiting progress) :
    ∃ moment, moment ≤ polling.start + passed ∧
      waiting.Stands leads argument progress (some (scenes moment)) := by
  induction passed generalizing progress with
  | zero =>
      exact ⟨polling.start, Nat.le_refl _, .polled .fresh (fun _ absent => by cases absent) rests⟩
  | succ passed ih =>
      obtain ⟨before, rested⟩ := outcome_before rests
      obtain ⟨moment, le, stands⟩ := ih rested
      cases polls : polling.polls (polling.start + passed + 1) with
      | true =>
          rw [outcome_polled rested polls] at rests
          refine ⟨polling.start + passed + 1, Nat.le_refl _, .polled stands ?_ rests⟩
          rintro _ ⟨⟩
          exact chain (Nat.le_succ_of_le le)
      | false =>
          rw [outcome_unpolled rested polls] at rests
          cases rests
          exact ⟨moment, Nat.le_succ_of_le le, stands⟩

/-!
## Answers
-/

namespace Heeds

variable {answer : ω → Option ρ} {moment : Nat} (heeds : waiting.Heeds leads argument answer)

include heeds in
theorem ready_at_start :
    waiting.outcome argument scenes polling 0 = .ready result ↔
      answer (scenes polling.start) = some result :=
  heeds.ready_iff .fresh (fun _ absent => by cases absent) result

include heeds in
theorem answeredAt_start (known : answer (scenes polling.start) = some result) :
    waiting.AnsweredAt argument scenes polling polling.start result := by
  refine ⟨Nat.le_refl _, ?_, fun passed before => by omega⟩
  rw [Nat.sub_self]
  exact heeds.ready_at_start.mpr known

variable (chain : ∀ {earlier later}, earlier ≤ later → leads (scenes earlier) (scenes later))

include heeds chain

theorem ready_at_poll (rests : waiting.outcome argument scenes polling passed = .waiting progress)
    (polls : polling.polls (polling.start + passed + 1) = true) :
    waiting.outcome argument scenes polling (passed + 1) = .ready result ↔
      answer (scenes (polling.start + passed + 1)) = some result := by
  obtain ⟨moment, le, stands⟩ := outcome_stands chain rests
  rw [outcome_polled rests polls]
  refine heeds.ready_iff stands ?_ result
  rintro _ ⟨⟩
  exact chain (Nat.le_succ_of_le le)

/-- A wait that goes on is woken by an answer. -/
theorem woken (rests : waiting.outcome argument scenes polling passed = .waiting progress)
    (answers : answer (scenes (polling.start + passed + 1)) ≠ none) :
    waiting.isWoken progress (scenes (polling.start + passed + 1)) = true := by
  obtain ⟨moment, le, stands⟩ := outcome_stands chain rests
  exact heeds.wakes stands (chain (Nat.le_succ_of_le le)) answers

/-- The answer to a wait is the one of its moment, whenever the wait is polled. -/
theorem answers (answered : waiting.AnsweredAt argument scenes polling moment result) :
    answer (scenes moment) = some result := by
  obtain ⟨passed, rfl⟩ := Nat.exists_eq_add_of_le answered.le
  have ready := answered.ready
  rw [Nat.add_sub_cancel_left] at ready
  cases passed with
  | zero => exact heeds.ready_at_start.mp ready
  | succ passed =>
      obtain ⟨progress, rests⟩ := answered.waits passed (Nat.lt_succ_self _)
      cases polls : polling.polls (polling.start + passed + 1) with
      | true => exact (heeds.ready_at_poll chain rests polls).mp ready
      | false =>
          rw [outcome_unpolled rests polls] at ready
          cases ready

/-- A wait that goes on is answered at its next poll, if there is an answer by then. -/
theorem answeredAt_poll (rests : waiting.outcome argument scenes polling passed = .waiting progress)
    {more : Nat} (polls : polling.polls (polling.start + passed + 1 + more) = true)
    (unpolled : ∀ fewer < more, polling.polls (polling.start + passed + 1 + fewer) = false)
    (known : answer (scenes (polling.start + passed + 1 + more)) = some result) :
    waiting.AnsweredAt argument scenes polling (polling.start + passed + 1 + more) result := by
  have idle := outcome_idle rests unpolled
  have place : polling.start + passed + 1 + more = polling.start + (passed + more) + 1 := by omega
  rw [place] at polls known ⊢
  refine ⟨by omega, ?_, fun earlier before => outcome_since (by omega) idle⟩
  rw [Nat.add_assoc, Nat.add_sub_cancel_left]
  exact (heeds.ready_at_poll chain idle polls).mpr known

/-- A wait goes on as long as there is no answer. -/
theorem waits_while_silent
    (silent : ∀ moment, polling.start ≤ moment → moment ≤ polling.start + passed →
      answer (scenes moment) = none) :
    ∃ progress, waiting.outcome argument scenes polling passed = .waiting progress := by
  cases known : waiting.outcome argument scenes polling passed with
  | waiting progress => exact ⟨progress, rfl⟩
  | ready result =>
      obtain ⟨moment, le, answered⟩ := exists_answeredAt known
      have given := heeds.answers chain answered
      rw [silent moment answered.le le] at given
      cases given

theorem waits_before (first : FirstAnswer (answer <| scenes ·) polling.start moment result)
    (before : polling.start + passed < moment) :
    ∃ progress, waiting.outcome argument scenes polling passed = .waiting progress :=
  heeds.waits_while_silent chain fun earlier start le => first.silent earlier start (by omega)

/-- A wait that is polled whenever it is woken goes on only as long as there is no answer. -/
theorem silent_while_waiting (prompt : waiting.IsPrompt argument scenes polling)
    (rests : waiting.outcome argument scenes polling passed = .waiting progress) :
    answer (scenes (polling.start + passed)) = none := by
  cases passed with
  | zero => exact heeds.silent .fresh (fun _ absent => by cases absent) rests
  | succ passed =>
      obtain ⟨before, rested⟩ := outcome_before rests
      by_contra answers
      obtain ⟨result, known⟩ := Option.ne_none_iff_exists'.mp answers
      have polled := prompt passed before rested (heeds.woken chain rested answers)
      rw [(heeds.ready_at_poll chain rested polled).mpr known] at rests
      cases rests

/-- A wait that is polled whenever it is woken is answered exactly at the first answer. -/
theorem answeredAt_iff (prompt : waiting.IsPrompt argument scenes polling) :
    waiting.AnsweredAt argument scenes polling moment result ↔
      FirstAnswer (answer <| scenes ·) polling.start moment result := by
  constructor
  · intro answered
    refine ⟨answered.le, heeds.answers chain answered, fun earlier start before => ?_⟩
    obtain ⟨passed, rfl⟩ := Nat.exists_eq_add_of_le start
    obtain ⟨progress, rests⟩ := answered.waits passed before
    exact heeds.silent_while_waiting chain prompt rests
  · intro first
    obtain ⟨passed, rfl⟩ := Nat.exists_eq_add_of_le first.le
    cases passed with
    | zero => exact heeds.answeredAt_start first.answers
    | succ passed =>
        obtain ⟨progress, rests⟩ := heeds.waits_before chain first (Nat.lt_succ_self _)
        have answers : answer (scenes (polling.start + passed + 1)) = some result := first.answers
        have polls := prompt passed progress rests (heeds.woken chain rests (by simp [answers]))
        exact heeds.answeredAt_poll chain rests polls
          (fun _ absent => absurd absent (Nat.not_lt_zero _)) answers

/-- A wait that is polled before the clock goes on is answered in the millisecond of the first
answer. -/
theorem answered_in_time {clock : ω → Nat}
    (forward : ∀ {earlier later}, leads earlier later → clock earlier ≤ clock later)
    (lasts : ∀ {earlier later}, leads earlier later → answer earlier ≠ none → answer later ≠ none)
    (inTime : waiting.IsInTime clock argument scenes polling)
    (first : FirstAnswer (answer <| scenes ·) polling.start moment result) :
    ∃ later found, moment ≤ later ∧ clock (scenes later) = clock (scenes moment) ∧
      waiting.AnsweredAt argument scenes polling later found := by
  obtain ⟨passed, rfl⟩ := Nat.exists_eq_add_of_le first.le
  cases passed with
  | zero => exact ⟨polling.start, result, Nat.le_refl _, rfl, heeds.answeredAt_start first.answers⟩
  | succ passed =>
      obtain ⟨progress, rests⟩ := heeds.waits_before chain first (Nat.lt_succ_self _)
      have given : answer (scenes (polling.start + passed + 1)) = some result := first.answers
      have answers : answer (scenes (polling.start + passed + 1)) ≠ none := by simp [given]
      obtain ⟨soon, le, polled, sameTime⟩ :=
        inTime passed progress rests (heeds.woken chain rests answers)
      obtain ⟨less, rfl⟩ := Nat.exists_eq_add_of_le le
      obtain ⟨more, more_le, polls, unpolled⟩ := exists_first_poll polled
      have after := forward (chain (Nat.le_add_right (polling.start + passed + 1) more))
      have before := forward (chain (Nat.add_le_add_left more_le (polling.start + passed + 1)))
      obtain ⟨found, known⟩ :=
        Option.ne_none_iff_exists'.mp (lasts (chain (Nat.le_add_right _ more)) answers)
      exact ⟨polling.start + passed + 1 + more, found, Nat.le_add_right _ _,
        Nat.le_antisymm (Nat.le_trans before (Nat.le_of_eq sameTime)) after,
          heeds.answeredAt_poll chain rests polls unpolled known⟩

end Heeds

end Outcome

end Waiting

end Passbook
