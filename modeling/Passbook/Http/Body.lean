import Passbook.Json.Ledger

/-!
The bodies of requests: what a new account is to be called, and what a movement is to be worth.
-/

set_option autoImplicit false

namespace Passbook.Http

open Json

structure AccountBody where
  username : String
  passwordHash : String
  deriving DecidableEq

namespace AccountBody

structure Fields where
  username : Option String
  passwordHash : Option String

def shape : Shape Fields AccountBody where
  name := "CreateAccountRequest"
  fields := [
    ⟨"username", (·.username.isSome), fun fields source =>
      (readText source).map fun (username, rest) => ({ fields with username }, rest)⟩,
    ⟨"password_hash", (·.passwordHash.isSome), fun fields source =>
      (readText source).map fun (passwordHash, rest) => ({ fields with passwordHash }, rest)⟩]
  start := ⟨none, none⟩
  finish fields := do
    return ⟨← required "username" fields.username, ← required "password_hash" fields.passwordHash⟩

def readJson : Reader AccountBody := shape.read

end AccountBody

/-- The body of a request for a movement. The amount has not been judged yet. -/
structure MovementBody where
  amount : Decimal
  deriving DecidableEq

namespace MovementBody

def shape : Shape (Option Decimal) MovementBody where
  name := "PostingRequest"
  fields := [
    ⟨"amount", Option.isSome, fun _ source =>
      (Decimal.readJson source).map fun (amount, rest) => (some amount, rest)⟩]
  start := none
  finish amount := do return ⟨← required "amount" amount⟩

def readJson : Reader MovementBody := shape.read

end MovementBody

end Passbook.Http
