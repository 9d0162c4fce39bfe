import Passbook.Json.Writer

/-!
Answers to HTTP requests. All bodies are JSON texts, except for one plain message about addresses.
-/

set_option autoImplicit false

namespace Passbook.Http

/-- An answer, without its request identifier. -/
structure Response where
  status : Nat
  contentType : Option String
  /-- The methods that would have been accepted. -/
  allow : Option String
  body : List Char
  deriving DecidableEq

namespace Response

def bare (status : Nat) : Response := ⟨status, none, none, []⟩

def json (status : Nat) (body : List Char) : Response :=
  ⟨status, some "application/json", none, body⟩

def failure (status : Nat) (code message : String) : Response :=
  json status (Json.writeObject
    [("error", Json.writeText code), ("message", Json.writeText message)])

end Response

end Passbook.Http
