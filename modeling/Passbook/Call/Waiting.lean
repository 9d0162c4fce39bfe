import Passbook.Call.Context
import Passbook.Store.Interface

/-!
Waiting until a call is interrupted. `CallContext.interruption` looks at the bounds of a call once.
A wait is polled when it begins, and again when it has been woken, because its token has been used
or abandoned or because its moment has come. A wait for an interruption polls for the token before
the deadline.
-/

set_option autoImplicit false

namespace Passbook

/-- Something to wait for: how a wait begins, what a poll makes of it, and whether what it observes
has woken it. -/
structure Waiting (α ω π ρ : Type) where
  fresh : α → π
  poll : π → ω → Poll π ρ
  isWoken : π → ω → Bool

/-- A token as it is found by those who wait for its use. -/
structure Signal where
  isUsed : Bool
  /-- How often the token has been used. -/
  uses : Nat
  /-- Whether its holder has gone, so that nobody can use it any more. -/
  isAbandoned : Bool

/-- The surroundings of a call together with the tokens that have been abandoned. -/
structure Situation (σ : Type) where
  world : World σ
  abandoned : List Token

def Situation.signal {σ : Type} (situation : Situation σ) (token : Token) : Signal :=
  ⟨situation.world.isCancelled token, situation.world.cancelled.count token,
    situation.abandoned.contains token⟩

/-- What comes of watching a token. -/
inductive Watched
  | used
  | abandoned

/-- A watch on a token: how many uses have been seen, and whether it has been polled. -/
structure Watch where
  seen : Nat
  isBegun : Bool

namespace Watch

/-- Looks at the token as it is now. -/
def look (signal : Signal) : Poll Watch Watched :=
  if signal.isUsed then .ready .used
  else if signal.isAbandoned then .ready .abandoned
  else .waiting ⟨signal.uses, true⟩

/-- Watches a token whose uses have been seen up to some number. The first poll looks at the token
in any case, the others only if it has been used again. -/
def watching : Waiting Nat Signal Watch Watched where
  fresh seen := ⟨seen, false⟩
  poll watch signal :=
    if watch.isBegun && signal.uses == watch.seen then
      if signal.isAbandoned then .ready .abandoned else .waiting watch
    else look signal
  isWoken watch signal := !watch.isBegun || signal.uses != watch.seen || signal.isAbandoned

end Watch

namespace Waiting

/-- Waits for a moment of the clock. -/
def sleeping : Waiting Nat Nat Nat Unit where
  fresh moment := moment
  poll moment now := if moment ≤ now then .ready () else .waiting moment
  isWoken moment now := decide (moment ≤ now)

variable {α σ ω π τ ρ : Type}

/-- Waits for what may be missing. What is missing never comes. -/
def ofOption (waiting : Waiting α ω π ρ) : Waiting (Option α) ω (Option π) ρ where
  fresh argument := argument.map waiting.fresh
  poll
    | none, _ => .waiting none
    | some progress, scene =>
        match waiting.poll progress scene with
        | .waiting progress => .waiting (some progress)
        | .ready result => .ready result
  isWoken
    | none, _ => false
    | some progress, scene => waiting.isWoken progress scene

/-- Waits for the use of a token whose uses have been seen up to some number. A token that is
abandoned unused is waited for without end. -/
def used (watch : Waiting Nat Signal π Watched) :
    Waiting (Token × Nat) (Situation σ) (Token × Option π) Unit where
  fresh
    | (token, seen) => (token, some (watch.fresh seen))
  poll
    | (token, none), _ => .waiting (token, none)
    | (token, some progress), situation =>
        match watch.poll progress (situation.signal token) with
        | .waiting progress => .waiting (token, some progress)
        | .ready .used => .ready ()
        | .ready .abandoned => .waiting (token, none)
  isWoken
    | (_, none), _ => false
    | (token, some progress), situation => watch.isWoken progress (situation.signal token)

end Waiting

/-- A wait for the interruption of a call, by its token and by its deadline. -/
structure Vigil (π τ : Type) where
  token : Option (Token × Option π)
  alarm : Option τ

namespace CallContext

variable {σ π τ : Type}

/-- Waits until a call is interrupted. A context is given with the number of uses that its copy has
seen of its token; to wait does not change it. -/
def interrupted (watch : Waiting Nat Signal π Watched) (sleep : Waiting Nat Nat τ Unit) :
    Waiting (CallContext × Nat) (Situation σ) (Vigil π τ) Interruption where
  fresh
    | (context, seen) =>
        ⟨(watch.used : Waiting _ (Situation σ) _ _).ofOption.fresh (context.token.map (·, seen)),
          sleep.ofOption.fresh context.deadline.instant⟩
  poll vigil situation :=
    match watch.used.ofOption.poll vigil.token situation with
    | .ready () => .ready .cancelled
    | .waiting token =>
        match sleep.ofOption.poll vigil.alarm situation.world.now with
        | .ready () => .ready .deadlineExceeded
        | .waiting alarm => .waiting ⟨token, alarm⟩
  isWoken vigil situation :=
    watch.used.ofOption.isWoken vigil.token situation || sleep.ofOption.isWoken
      vigil.alarm situation.world.now

end CallContext

end Passbook
