/-!
Events that the library reports while it works. Each has a level, mostly a message, and named texts.
-/

set_option autoImplicit false

namespace Passbook.Log

inductive Level
  | trace
  | debug
  | info
  | warn
  | error
  deriving DecidableEq

namespace Level

def name : Level → String
  | trace => "TRACE"
  | debug => "DEBUG"
  | info => "INFO"
  | warn => "WARN"
  | error => "ERROR"

/-- Rank of a level; graver events rank higher. -/
def rank : Level → Nat
  | trace => 1
  | debug => 2
  | info => 3
  | warn => 4
  | error => 5

end Level

structure Event where
  level : Level
  message : Option String
  fields : List (String × String)
  deriving DecidableEq

def Event.of (level : Level) (message : String) (fields : List (String × String)) : Event :=
  ⟨level, some message, fields⟩

def Event.failure (reason : String) : Event := ⟨.error, none, [("error", reason)]⟩

end Passbook.Log
