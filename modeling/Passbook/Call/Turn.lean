import Passbook.Store.Interface

/-!
Calls that take several steps. A step leaves the call resting, moves it on, or ends it; a call is
tried by taking steps until it rests or ends.
-/

set_option autoImplicit false

namespace Passbook

/-- What one step makes of a call. -/
inductive Turn (κ ρ : Type)
  /-- The call waits for something. -/
  | rests (call : κ)
  /-- The next step can be taken at once. -/
  | proceeds (call : κ)
  | ends (result : ρ)

/-- Takes at most `steps` steps. -/
def settle {κ ρ ω : Type} (step : κ → ω → Turn κ ρ × ω) : (steps : Nat) → κ → ω → Poll κ ρ × ω
  | 0, call, world => (.waiting call, world)
  | steps + 1, call, world =>
      match step call world with
      | (.rests call, world) => (.waiting call, world)
      | (.ends result, world) => (.ready result, world)
      | (.proceeds call, world) => settle step steps call world

/-- The earlier of two moments, either of which may be missing. -/
def soonest (first second : Option Nat) : Option Nat :=
  match first, second with
  | some one, some other => some (min one other)
  | some one, none => some one
  | none, moment => moment

end Passbook
