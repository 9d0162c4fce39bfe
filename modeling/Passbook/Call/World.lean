import Passbook.Log.Event

/-!
What calls share: the clock, the tokens by which callers have withdrawn, the store, and the events
reported so far.
-/

set_option autoImplicit false

namespace Passbook

/-- A token by which a caller can withdraw from its calls. -/
structure Token where
  number : Nat
  deriving DecidableEq

/-- The surroundings of a call. The clock counts milliseconds, unless the store works with a finer
one; the newest event comes first. -/
structure World (σ : Type) where
  now : Nat
  cancelled : List Token
  store : σ
  events : List Log.Event

namespace World

def report {σ : Type} (world : World σ) (event : Log.Event) : World σ :=
  { world with events := event :: world.events }

def cancel {σ : Type} (world : World σ) (token : Token) : World σ :=
  { world with cancelled := token :: world.cancelled }

def isCancelled {σ : Type} (world : World σ) (token : Token) : Bool :=
  world.cancelled.contains token

end World

end Passbook
