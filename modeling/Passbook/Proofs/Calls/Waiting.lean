import Mathlib.Data.Option.Basic
import Mathlib.Tactic.Convert
import Passbook.Call.Waiting

/-!
Waits and what they wait for. A wait heeds something if its polls answer as that something does and
if it is woken for every answer, however what it observes has developed since its last poll. This
follows for the wait for an interruption from what is documented of watches on tokens and of
sleeping.
-/

set_option autoImplicit false

namespace Passbook

namespace Waiting

variable {α ω π ρ : Type} {waiting : Waiting α ω π ρ} {leads : ω → ω → Prop} {argument : α}
  {progress : π} {last : Option ω} {scene : ω}

/-- A wait that has been polled in vain, if at all, and what it observed the last time. From poll to
poll, this develops as `leads` says. -/
inductive Stands (waiting : Waiting α ω π ρ) (leads : ω → ω → Prop)
    (argument : α) : π → Option ω → Prop
  | fresh : Stands waiting leads argument (waiting.fresh argument) none
  | polled {progress next : π} {last : Option ω} {scene : ω}
      (stands : Stands waiting leads argument progress last)
      (since : ∀ earlier ∈ last, leads earlier scene)
      (rests : waiting.poll progress scene = .waiting next) :
      Stands waiting leads argument next (some scene)

/-- The polls of a wait answer as `answer` does, and the wait is woken for every answer. -/
structure Heeds (waiting : Waiting α ω π ρ) (leads : ω → ω → Prop) (argument : α)
    (answer : ω → Option ρ) : Prop where
  ready_iff {progress : π} {last : Option ω} {scene : ω}
    (stands : waiting.Stands leads argument progress last)
    (since : ∀ earlier ∈ last, leads earlier scene) (result : ρ) :
    waiting.poll progress scene = .ready result ↔ answer scene = some result
  wakes {progress : π} {last scene : ω}
    (stands : waiting.Stands leads argument progress (some last)) (since : leads last scene)
    (answers : answer scene ≠ none) : waiting.isWoken progress scene = true

theorem Heeds.silent {answer : ω → Option ρ} (heeds : waiting.Heeds leads argument answer)
    (stands : waiting.Stands leads argument progress last)
    (since : ∀ earlier ∈ last, leads earlier scene) {next : π}
    (rests : waiting.poll progress scene = .waiting next) : answer scene = none := by
  cases known : answer scene with
  | none => rfl
  | some result =>
      rw [(heeds.ready_iff stands since result).mpr known] at rests
      cases rests

/-!
## What may be missing
-/

theorem stands_missing {progress : Option π}
    (stands : waiting.ofOption.Stands leads none progress last) : progress = none := by
  induction stands with
  | fresh => rfl
  | polled _ _ rests ih =>
      rw [ih] at rests
      cases rests
      rfl

theorem stands_present {progress : Option π}
    (stands : waiting.ofOption.Stands leads (some argument) progress last) :
    ∃ own, progress = some own ∧ waiting.Stands leads argument own last := by
  induction stands with
  | fresh => exact ⟨_, rfl, .fresh⟩
  | polled _ since rests ih =>
      obtain ⟨own, rfl, stands⟩ := ih
      simp only [ofOption] at rests
      split at rests
      · next next rested =>
          cases rests
          exact ⟨next, rfl, .polled stands since rested⟩
      · cases rests

/-- A wait for what may be missing heeds what is there. -/
theorem Heeds.ofOption (argument : Option α) {answer : α → ω → Option ρ}
    (heeds : ∀ present ∈ argument, waiting.Heeds leads present (answer present)) :
    waiting.ofOption.Heeds leads argument fun scene => argument.bind (answer · scene) := by
  cases argument with
  | none =>
      refine ⟨fun stands _ result => ?_, fun _ _ answers => absurd rfl answers⟩
      rw [stands_missing stands]
      simp [Waiting.ofOption]
  | some present =>
      constructor
      · intro progress last scene stands since result
        obtain ⟨own, rfl, stood⟩ := stands_present stands
        rw [Option.bind_some, ← (heeds present rfl).ready_iff stood since result]
        simp only [Waiting.ofOption]
        split
        · next rested => simp [rested]
        · next answered => simp [answered]
      · intro progress last scene stands since answers
        obtain ⟨own, rfl, stood⟩ := stands_present stands
        exact (heeds present rfl).wakes stood since answers

end Waiting

open Waiting (Stands)

variable {σ π τ : Type}

/-!
## Watching and sleeping
-/

/-- How a token develops: it is used more and more often, until it is abandoned. -/
structure Signal.Leads (earlier later : Signal) : Prop where
  uses_le : earlier.uses ≤ later.uses
  same : later.uses = earlier.uses → later.isUsed = earlier.isUsed
  used : earlier.isUsed = true → later.isUsed = true
  abandoned : earlier.isAbandoned = true → later.isAbandoned = true ∧ later.uses = earlier.uses

/-- A token that is used for the first time is used again. -/
theorem Signal.Leads.uses_lt {earlier later : Signal} (leads : earlier.Leads later)
    (unused : earlier.isUsed = false) (used : later.isUsed = true) : earlier.uses < later.uses := by
  refine Nat.lt_of_le_of_ne leads.uses_le fun same => ?_
  rw [leads.same same.symm, unused] at used
  cases used

namespace Signal.Leads

variable {earlier later last : Signal}

theorem refl (signal : Signal) : signal.Leads signal :=
  ⟨Nat.le_refl _, fun _ => rfl, fun used => used, fun gone => ⟨gone, rfl⟩⟩

theorem trans (first : earlier.Leads later) (second : later.Leads last) : earlier.Leads last where
  uses_le := Nat.le_trans first.uses_le second.uses_le
  same unchanged := by
    have before := first.uses_le
    have after := second.uses_le
    exact (second.same (by omega)).trans (first.same (by omega))
  used used := second.used (first.used used)
  abandoned gone := by
    obtain ⟨stays, same⟩ := first.abandoned gone
    obtain ⟨still, unchanged⟩ := second.abandoned stays
    exact ⟨still, unchanged.trans same⟩

end Signal.Leads

/-- What is documented of watching a token until it is used. -/
structure Watches (watch : Waiting Nat Signal π Watched) : Prop where
  /-- The first poll looks at the token as it is, even if all its uses have been seen. -/
  begins {seen : Nat} {signal : Signal} (used : signal.isUsed = true) :
    watch.poll (watch.fresh seen) signal = .ready .used
  /-- A later poll looks at the token if it has been used since the one before. -/
  notices {seen : Nat} {progress : π} {last signal : Signal}
    (stands : watch.Stands Signal.Leads seen progress (some last)) (since : last.Leads signal)
    (again : last.uses < signal.uses) (used : signal.isUsed = true) :
    watch.poll progress signal = .ready .used
  used {seen : Nat} {progress : π} {last : Option Signal} {signal : Signal}
    (stands : watch.Stands Signal.Leads seen progress last)
    (since : ∀ earlier ∈ last, earlier.Leads signal)
    (found : watch.poll progress signal = .ready .used) : signal.isUsed = true
  abandoned {seen : Nat} {progress : π} {last : Option Signal} {signal : Signal}
    (stands : watch.Stands Signal.Leads seen progress last)
    (since : ∀ earlier ∈ last, earlier.Leads signal)
    (found : watch.poll progress signal = .ready .abandoned) :
    signal.isAbandoned = true ∧ signal.isUsed = false
  wakes {seen : Nat} {progress : π} {last signal : Signal}
    (stands : watch.Stands Signal.Leads seen progress (some last)) (since : last.Leads signal)
    (again : last.uses < signal.uses) : watch.isWoken progress signal = true

/-- What is documented of sleeping until a moment, on a clock of whole milliseconds. -/
structure Sleeps (sleep : Waiting Nat Nat τ Unit) : Prop where
  ready_iff {moment now : Nat} {progress : τ} {last : Option Nat}
    (stands : sleep.Stands (· ≤ ·) moment progress last) (since : ∀ earlier ∈ last, earlier ≤ now) :
    sleep.poll progress now = .ready () ↔ moment ≤ now
  wakes {moment last now : Nat} {progress : τ}
    (stands : sleep.Stands (· ≤ ·) moment progress (some last)) (since : last ≤ now)
    (reached : moment ≤ now) : sleep.isWoken progress now = true

namespace Watch

theorem stands_watching {seen : Nat} {watch : Watch} {last : Option Signal}
    (stands : watching.Stands Signal.Leads seen watch last) :
    (∀ signal ∈ last, watch = ⟨signal.uses, true⟩ ∧ signal.isUsed = false) ∧
      (last = none → watch.isBegun = false) := by
  induction stands with
  | fresh => exact ⟨fun _ absent => by simp at absent, fun _ => rfl⟩
  | @polled watch next last signal _ since rests ih =>
      refine ⟨fun _ member => ?_, fun absent => by cases absent⟩
      cases member
      simp only [watching, look] at rests
      split at rests
      · next same =>
          split at rests
          · cases rests
          · cases rests
            obtain ⟨begun, same⟩ := Bool.and_eq_true_iff.mp same
            cases last with
            | none => rw [ih.2 rfl] at begun; cases begun
            | some earlier =>
                obtain ⟨rfl, unused⟩ := ih.1 earlier rfl
                have same : signal.uses = earlier.uses := by simpa using same
                rw [same, (since earlier rfl).same same]
                exact ⟨rfl, unused⟩
      · split at rests
        · cases rests
        · next unused =>
            split at rests
            · cases rests
            · cases rests
              exact ⟨rfl, by simpa using unused⟩

theorem watches : Watches watching where
  begins used := by simp [watching, look, used]
  notices stands since again used := by
    obtain ⟨rfl, -⟩ := (stands_watching stands).1 _ rfl
    simp [watching, look, used, Nat.ne_of_gt again]
  used stands since found := by
    simp only [watching, look] at found
    split at found
    · split at found <;> cases found
    · split at found
      · assumption
      · split at found <;> cases found
  abandoned {seen progress last signal} stands since found := by
    simp only [watching, look] at found
    split at found
    · next same =>
        split at found
        · next gone =>
            obtain ⟨begun, same⟩ := Bool.and_eq_true_iff.mp same
            cases last with
            | none => rw [(stands_watching stands).2 rfl] at begun; cases begun
            | some earlier =>
                obtain ⟨rfl, unused⟩ := (stands_watching stands).1 earlier rfl
                exact ⟨gone, ((since earlier rfl).same (by simpa using same)).trans unused⟩
        · cases found
    · split at found
      · cases found
      · next unused =>
          split at found
          · next gone => exact ⟨gone, by simpa using unused⟩
          · cases found
  wakes stands since again := by
    obtain ⟨rfl, -⟩ := (stands_watching stands).1 _ rfl
    simp [watching, Nat.ne_of_gt again]

end Watch

theorem Waiting.stands_sleeping {moment progress : Nat} {last : Option Nat}
    (stands : sleeping.Stands (· ≤ ·) moment progress last) : progress = moment := by
  induction stands with
  | fresh => rfl
  | polled _ _ rests ih =>
      subst ih
      simp only [sleeping] at rests
      split at rests <;> cases rests
      rfl

theorem Waiting.sleeps : Sleeps sleeping where
  ready_iff stands since := by
    rw [stands_sleeping stands]
    simp [sleeping]
  wakes stands since reached := by
    rw [stands_sleeping stands]
    simpa [sleeping] using reached

theorem Sleeps.heeds {sleep : Waiting Nat Nat τ Unit} (sleeps : Sleeps sleep) (moment : Nat) :
    sleep.Heeds (· ≤ ·) moment fun now => if moment ≤ now then some () else none where
  ready_iff stands since _ := by
    rw [sleeps.ready_iff stands since]
    simp
  wakes stands since answers := by
    exact sleeps.wakes stands since (Decidable.byContradiction fun early => answers (if_neg early))

/-!
## Waiting for an interruption
-/

/-- How the surroundings of calls develop: the clock does not go back, and tokens are used and
abandoned. -/
structure Situation.Leads (earlier later : Situation σ) : Prop where
  clock : earlier.world.now ≤ later.world.now
  signals (token : Token) : (earlier.signal token).Leads (later.signal token)

namespace Situation.Leads

variable {earlier later last : Situation σ}

theorem refl (situation : Situation σ) : situation.Leads situation :=
  ⟨Nat.le_refl _, fun token => .refl (situation.signal token)⟩

theorem trans (first : earlier.Leads later) (second : later.Leads last) : earlier.Leads last :=
  ⟨Nat.le_trans first.clock second.clock,
    fun token => (first.signals token).trans (second.signals token)⟩

end Situation.Leads

section Watched

variable {watch : Waiting Nat Signal π Watched} {seen : Nat} {progress : π} {last : Option Signal}
  {signal : Signal}

/-- A wait for a token that has been polled in vain has not found it used. -/
theorem Watches.unused (watches : Watches watch)
    (stands : watch.Stands Signal.Leads seen progress last) :
    ∀ earlier ∈ last, earlier.isUsed = false := by
  induction stands with
  | fresh => exact fun _ absent => by cases absent
  | @polled progress next last signal stands since rests ih =>
      rintro _ ⟨⟩
      refine Bool.eq_false_iff.mpr fun used => ?_
      cases stands with
      | fresh =>
          rw [watches.begins used] at rests
          cases rests
      | polled before since' rested =>
          have again := (since _ rfl).uses_lt (ih _ rfl) used
          rw [watches.notices (.polled before since' rested) (since _ rfl) again used] at rests
          cases rests

theorem Watches.ready_used_iff (watches : Watches watch)
    (stands : watch.Stands Signal.Leads seen progress last)
    (since : ∀ earlier ∈ last, earlier.Leads signal) :
    watch.poll progress signal = .ready .used ↔ signal.isUsed = true := by
  refine ⟨watches.used stands since, fun used => ?_⟩
  cases last with
  | none =>
      cases stands
      exact watches.begins used
  | some earlier =>
      exact watches.notices stands (since _ rfl)
        ((since _ rfl).uses_lt (watches.unused stands _ rfl) used) used

/-- A wait for the use of a token is at its watch, or it has no end because the token was abandoned
unused. -/
theorem Watches.stands_used (watches : Watches watch) {token : Token} {wait : Token × Option π}
    {last : Option (Situation σ)}
    (stands : watch.used.Stands Situation.Leads (token, seen) wait last) :
    (∃ progress, wait = (token, some progress) ∧
      watch.Stands Signal.Leads seen progress (last.map (·.signal token))) ∨
      (wait = (token, none) ∧
        ∃ situation ∈ last, (situation.signal token).isAbandoned = true ∧
          (situation.signal token).isUsed = false) := by
  induction stands with
  | fresh => exact .inl ⟨_, rfl, .fresh⟩
  | @polled wait next last situation _ since rests ih =>
      have observed : ∀ earlier ∈ last.map (·.signal token),
          earlier.Leads (situation.signal token) :=
        Option.forall_mem_map.mpr fun earlier known => (since earlier known).signals token
      rcases ih with ⟨progress, rfl, stood⟩ | ⟨rfl, earlier, known, gone, unused⟩
      · simp only [Waiting.used] at rests
        split at rests
        · next rested =>
            cases rests
            exact .inl ⟨_, rfl, .polled stood observed rested⟩
        · cases rests
        · next found =>
            cases rests
            exact .inr ⟨rfl, situation, rfl, watches.abandoned stood observed found⟩
      · cases rests
        have leads := (since earlier known).signals token
        obtain ⟨stays, same⟩ := leads.abandoned gone
        exact .inr ⟨rfl, situation, rfl, stays, (leads.same same).trans unused⟩

/-- A wait for a token heeds its use. -/
theorem Watches.heeds (watches : Watches watch) (token : Token) (seen : Nat) :
    watch.used.Heeds Situation.Leads (token, seen) fun situation : Situation σ =>
      if situation.world.isCancelled token then some () else none where
  ready_iff {wait last situation} stands since _ := by
    rcases watches.stands_used stands
      with ⟨progress, rfl, stood⟩ | ⟨rfl, earlier, known, gone, unused⟩
    · have observed : ∀ earlier ∈ last.map (·.signal token),
          earlier.Leads (situation.signal token) :=
        Option.forall_mem_map.mpr fun earlier known => (since earlier known).signals token
      have found : watch.poll progress (situation.signal token) = .ready .used ↔
          situation.world.isCancelled token = true :=
        watches.ready_used_iff stood observed
      simp only [Waiting.used]
      split
      · next rested =>
          rw [rested] at found
          simp_all
      · next known =>
          rw [known] at found
          simp_all
      · next known =>
          rw [known] at found
          simp_all
    · have leads := (since earlier known).signals token
      have unused : situation.world.isCancelled token = false :=
        (leads.same (leads.abandoned gone).2).trans unused
      simp [Waiting.used, unused]
  wakes {wait last situation} stands since answers := by
    have leads := since.signals token
    have used : situation.world.isCancelled token = true :=
      Decidable.byContradiction fun unused => answers (if_neg unused)
    rcases watches.stands_used stands with ⟨progress, rfl, stood⟩ | ⟨rfl, _, ⟨⟩, gone, unused⟩
    · exact watches.wakes stood leads (leads.uses_lt (watches.unused stood _ rfl) used)
    · exact absurd used (Bool.eq_false_iff.mp ((leads.same (leads.abandoned gone).2).trans unused))

end Watched

section Interrupted

variable {watch : Waiting Nat Signal π Watched} {sleep : Waiting Nat Nat τ Unit}
  {context : CallContext} {seen : Nat} {vigil : Vigil π τ} {last : Option (Situation σ)}

/-- A wait for an interruption is a wait for the token and a wait for the deadline, polled at the
same times. -/
theorem CallContext.stands_interrupted
    (stands : (interrupted watch sleep).Stands Situation.Leads (context, seen) vigil last) :
    watch.used.ofOption.Stands Situation.Leads (context.token.map (·, seen)) vigil.token last ∧
      sleep.ofOption.Stands (· ≤ ·) context.deadline.instant vigil.alarm
        (last.map (·.world.now)) := by
  induction stands with
  | fresh => exact ⟨.fresh, .fresh⟩
  | polled _ since rests ih =>
      simp only [interrupted] at rests
      split at rests
      · cases rests
      · next token watched =>
          split at rests
          · cases rests
          · next alarm slept =>
              cases rests
              exact ⟨.polled ih.1 since watched,
                .polled ih.2
                  (Option.forall_mem_map.mpr fun earlier known => (since earlier known).clock)
                  slept⟩

/-- The wait for the token of a context heeds its use. -/
theorem Watches.heeds_token (watches : Watches watch) (token : Option Token) (seen : Nat) :
    watch.used.ofOption.Heeds Situation.Leads (token.map (·, seen)) fun situation : Situation σ =>
      if token.any situation.world.isCancelled then some () else none := by
  have heeds :=
    Waiting.Heeds.ofOption (token.map (·, seen)) fun present _ =>
      watches.heeds (σ := σ) present.1 present.2
  convert heeds using 2
  cases token <;> rfl

/-- The wait for a deadline heeds its passing. -/
theorem Sleeps.heeds_deadline (sleeps : Sleeps sleep) (deadline : Deadline) :
    sleep.ofOption.Heeds (· ≤ ·) deadline.instant fun now => if deadline.hasPassed now then
      some () else none := by
  have heeds := Waiting.Heeds.ofOption deadline.instant fun moment _ => sleeps.heeds moment
  convert heeds using 2
  obtain ⟨instant⟩ := deadline
  cases instant <;> simp [Deadline.hasPassed]

/-- A wait for an interruption heeds the interruptions that are found by looking. -/
theorem CallContext.interrupted_heeds (watches : Watches watch) (sleeps : Sleeps sleep)
    (context : CallContext) (seen : Nat) :
    (interrupted watch sleep).Heeds Situation.Leads (context, seen) fun situation : Situation σ =>
      context.interruption situation.world where
  ready_iff {vigil last situation} stands since reason := by
    obtain ⟨watched, slept⟩ := stands_interrupted stands
    have token : watch.used.ofOption.poll vigil.token situation = .ready () ↔
        context.token.any situation.world.isCancelled = true := by
      simpa using (watches.heeds_token context.token seen).ready_iff watched since ()
    have alarm : sleep.ofOption.poll vigil.alarm situation.world.now = .ready () ↔
        context.deadline.hasPassed situation.world.now = true := by
      simpa using (sleeps.heeds_deadline context.deadline).ready_iff slept
        (Option.forall_mem_map.mpr fun earlier known => (since earlier known).clock) ()
    simp only [interrupted]
    split
    · next found =>
        rw [interruption_eq_cancelled_iff.mpr (token.mp found), Poll.ready.injEq, Option.some.injEq]
    · next _ watching =>
        rw [watching] at token
        have unused : context.token.any situation.world.isCancelled = false := by simpa using token
        split
        · next rung =>
            rw [interruption_eq_deadlineExceeded_iff.mpr ⟨unused, alarm.mp rung⟩,
              Poll.ready.injEq, Option.some.injEq]
        · next _ sleeping =>
            rw [sleeping] at alarm
            have early : context.deadline.hasPassed situation.world.now = false := by
              simpa using alarm
            simp [interruption_eq_none_iff.mpr ⟨unused, early⟩]
  wakes {vigil last situation} stands since answers := by
    obtain ⟨watched, slept⟩ := stands_interrupted stands
    simp only [interrupted, Bool.or_eq_true]
    cases used : context.token.any situation.world.isCancelled with
    | true =>
        exact .inl ((watches.heeds_token context.token seen).wakes watched since (by simp [used]))
    | false =>
        refine .inr ((sleeps.heeds_deadline context.deadline).wakes slept since.clock ?_)
        intro early
        exact answers (interruption_eq_none_iff.mpr ⟨used, by simpa using early⟩)

end Interrupted

end Passbook
