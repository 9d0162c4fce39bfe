/-!
Deadlines on a clock of whole milliseconds. A deadline without an instant never passes.
-/

set_option autoImplicit false

namespace Passbook

/-- The last moment at which a caller still wants an answer. -/
structure Deadline where
  instant : Option Nat
  deriving DecidableEq

namespace Deadline

def never : Deadline := ⟨none⟩

/-- The deadline that passes `timeout` milliseconds from now. -/
def after (now timeout : Nat) : Deadline := ⟨some (now + timeout)⟩

/-- The time that is left, zero once the deadline has passed; none without an instant. -/
def remaining? (deadline : Deadline) (now : Nat) : Option Nat := deadline.instant.map (· - now)

/-- Whether the deadline has passed. It passes at its instant, not after it. -/
def hasPassed (deadline : Deadline) (now : Nat) : Bool :=
  match deadline.instant with
  | some instant => decide (instant ≤ now)
  | none => false

def earlier (first second : Deadline) : Deadline :=
  match first.instant, second.instant with
  | some one, some other => ⟨some (min one other)⟩
  | some one, none => ⟨some one⟩
  | none, instant => ⟨instant⟩

theorem hasPassed_never (now : Nat) : never.hasPassed now = false := rfl

theorem hasPassed_iff {deadline : Deadline} {now : Nat} :
    deadline.hasPassed now = true ↔ ∃ instant, deadline.instant = some instant ∧ instant ≤ now := by
  unfold hasPassed
  split
  · next instant known => simp [known]
  · next missing => simp [missing]

theorem hasPassed_later {deadline : Deadline} {now later : Nat} (le : now ≤ later)
    (passed : deadline.hasPassed now = true) : deadline.hasPassed later = true := by
  obtain ⟨instant, known, reached⟩ := hasPassed_iff.mp passed
  exact hasPassed_iff.mpr ⟨instant, known, Nat.le_trans reached le⟩

/-- The earlier of two deadlines has passed when one of them has. -/
theorem hasPassed_earlier (first second : Deadline) (now : Nat) :
    (first.earlier second).hasPassed now = (first.hasPassed now || second.hasPassed now) := by
  obtain ⟨one⟩ := first
  obtain ⟨other⟩ := second
  cases one <;> cases other <;>
    simp only [earlier, hasPassed, Bool.or_false, Bool.false_or, ← Bool.decide_or, decide_eq_decide]
  omega

end Deadline

end Passbook
