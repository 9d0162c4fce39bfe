import Passbook.Call.World
import Passbook.Deadline

/-!
How a caller bounds its calls: by a deadline and by a token. An interruption is judged at a moment;
once there is one, there is always one, because the clock does not go back and tokens stay used.
-/

set_option autoImplicit false

namespace Passbook

/-- Why a call is to stop. -/
inductive Interruption
  | deadlineExceeded
  | cancelled
  deriving DecidableEq

/-- The bounds of a call. -/
structure CallContext where
  deadline : Deadline
  token : Option Token
  deriving DecidableEq

namespace CallContext

def unbounded : CallContext := ⟨.never, none⟩

/-- Adds a deadline; the earlier one counts. -/
def withDeadline (context : CallContext) (deadline : Deadline) : CallContext :=
  { context with deadline := context.deadline.earlier deadline }

def withTimeout (context : CallContext) (now timeout : Nat) : CallContext :=
  context.withDeadline (.after now timeout)

def withToken (context : CallContext) (token : Token) : CallContext :=
  { context with token := some token }

/-- The interruption at this moment. A used token counts before a deadline that has passed. -/
def interruption {σ : Type} (context : CallContext) (world : World σ) : Option Interruption :=
  if context.token.any world.isCancelled then some .cancelled
  else if context.deadline.hasPassed world.now then some .deadlineExceeded
  else none

section Interruption

variable {σ : Type} {context : CallContext} {world : World σ}

theorem interruption_eq_cancelled_iff :
    context.interruption world = some .cancelled ↔ context.token.any world.isCancelled = true := by
  unfold interruption
  split
  · next used => simp [used]
  · next unused => split <;> simp [unused]

theorem interruption_eq_deadlineExceeded_iff :
    context.interruption world = some .deadlineExceeded ↔
      context.token.any world.isCancelled = false ∧
        context.deadline.hasPassed world.now = true := by
  unfold interruption
  split
  · next used => simp [used]
  · next unused => split <;> simp_all

theorem interruption_eq_none_iff :
    context.interruption world = none ↔
      context.token.any world.isCancelled = false ∧
        context.deadline.hasPassed world.now = false := by
  unfold interruption
  split
  · next used => simp [used]
  · next unused => split <;> simp_all

/-- An interrupted call stays interrupted while the clock does not go back and used tokens stay
used. -/
theorem interrupted_later {later : World σ} (clock : world.now ≤ later.now)
    (tokens : ∀ token, world.isCancelled token = true → later.isCancelled token = true)
    (interrupted : context.interruption world ≠ none) : context.interruption later ≠ none := by
  intro none
  obtain ⟨unused, early⟩ := interruption_eq_none_iff.mp none
  refine interrupted (interruption_eq_none_iff.mpr ⟨?_, ?_⟩)
  · cases known : context.token with
    | none => rfl
    | some token =>
        rw [known] at unused
        exact Bool.eq_false_iff.mpr fun used => Bool.eq_false_iff.mp unused (tokens token used)
  · exact Bool.eq_false_iff.mpr fun passed =>
      Bool.eq_false_iff.mp early (Deadline.hasPassed_later clock passed)

end Interruption

end CallContext

end Passbook
