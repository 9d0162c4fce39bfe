import Passbook.Http.Body
import Passbook.Http.Failure
import Passbook.Http.MediaType
import Passbook.Http.Target
import Passbook.Text.Percent

/-!
Requests, and what they ask for. A request is understood before anything is done: it is answered at
once, or it denotes one call on the ledger. Of several faults the first in this order is answered:
unknown path, wrong method, the account in the path, media type, size, JSON, and the rules of the
ledger.
-/

set_option autoImplicit false

namespace Passbook.Http

/-- A request as it arrives. -/
structure Request where
  method : String
  target : List Char
  headers : List (String × String)
  body : List UInt8

/-- The request identifier of an answer. -/
inductive RequestId
  | given (text : String)
  | generated
  deriving DecidableEq

/-- Whether a character of a header can be seen, or is a space or tab. -/
def isPrintable (char : Char) : Bool :=
  char = '\t' || (0x20 ≤ char.toNat && char.toNat < 0x7F)

namespace Request

/-- Whether a request of this form can exist: a method, a target, and headers without control
characters. -/
def isPossible (request : Request) : Bool :=
  let isToken := fun (text : String) => !text.isEmpty && text.toList.all isTokenChar
  isToken request.method && (path? request.target).isSome &&
    request.headers.all fun (name, value) =>
      isToken name && value.toList.all fun char =>
        char = '\t' || (0x20 ≤ char.toNat && char.toNat != 0x7F)

/-- The first header of a name, if all of it can be printed. -/
def header? (request : Request) (name : String) : Option (List Char) :=
  let found := request.headers.find? fun (other, _) => other.toList.map Char.toLower == name.toList
  (found.map fun (_, value) => value.toList).filter fun value => value.all isPrintable

def maxIdLength : Nat := 128

def id (request : Request) : RequestId :=
  match (request.header? "x-request-id").map Text.trim with
  | some text =>
      if !text.isEmpty && text.length ≤ maxIdLength then .given (String.ofList text) else .generated
  | none => .generated

def path (request : Request) : List Char := (path? request.target).getD []

end Request

/-- What a path denotes. An account is still as it is written there. -/
inductive Resource
  | health
  | accounts
  | account (id : List Char)
  | history (id : List Char)
  | movement (kind : EntryKind) (id : List Char)

namespace Resource

def ofAccount? (id : List Char) : List (List Char) → Option Resource
  | [] => some (account id)
  | [part] =>
      if part = "transactions".toList then some (history id)
      else if part = "credit".toList then some (movement .credit id)
      else if part = "debit".toList then some (movement .debit id)
      else none
  | _ => none

/-- What a path denotes, if anything. -/
def ofPath? (path : List Char) : Option Resource :=
  match (segments [] path).map String.ofList with
  | ["", "health"] => some health
  | "" :: "api" :: "v1" :: "accounts" :: rest =>
      match rest with
      | [] => some accounts
      | id :: rest => if id.isEmpty then none else ofAccount? id.toList (rest.map String.toList)
  | _ => none

/-- Whether a resource is read, not posted to. -/
def isRead : Resource → Bool
  | health => true
  | account _ => true
  | history _ => true
  | accounts => false
  | movement _ _ => false

def methods (resource : Resource) : List String :=
  if resource.isRead then ["GET", "HEAD"] else ["POST"]

end Resource

inductive Action
  | answer (response : Response)
  | create (registration : Registration)
  | find (id : AccountId)
  | list (id : AccountId)
  | move (kind : EntryKind) (id : AccountId) (amount : Amount)

namespace Request

/-- The largest body, in bytes. -/
def maxBodyLength : Nat := 2097152

def refuseBody (reason : String) : Response := .failure 400 "validation_error" reason

/-- Reads the body as JSON. What comes after the value is not looked at. The answers are cut: a body
that is no JSON is not told what is wrong with it, and no answer names a line and a column. -/
def readBody {α : Type} (request : Request) (reader : Json.Reader α) : Except Response α :=
  if !((request.header? "content-type").any isJsonMediaType) then
    .error (refuseBody "Expected request with `Content-Type: application/json`")
  else if maxBodyLength < request.body.length then
    .error (refuseBody "Failed to buffer the request body: length limit exceeded")
  else
    match reader (Text.decodeUtf8 request.body) with
    | .ok (value, _) => .ok value
    | .error .malformed => .error (refuseBody "Failed to parse the request body as JSON")
    | .error (.unfit field reason) =>
        let place := match field with
          | some field => field ++ ": "
          | none => ""
        .error (refuseBody
          ("Failed to deserialize the JSON body into the target type: " ++ place ++ reason))

def readAccount (id : List Char) : Except Response AccountId :=
  match Text.ofUtf8? (Text.percentDecoded id) with
  | some text => (AccountId.read text).mapError LedgerError.response
  | none =>
      .error ⟨400, some "text/plain; charset=utf-8", none,
        "Invalid URL: Invalid UTF-8 in `id`".toList⟩

/-- What a request for a resource asks for, or the answer to one that is refused. -/
def actionOn (request : Request) : Resource → Except Response Action
  | .health => .ok (.answer (.bare 200))
  | .accounts => do
      let body ← request.readBody AccountBody.readJson
      let registration ←
        (Registration.make body.username body.passwordHash).mapError LedgerError.response
      return .create registration
  | .account id => (readAccount id).map .find
  | .history id => (readAccount id).map .list
  | .movement kind id => do
      let id ← readAccount id
      let body ← request.readBody MovementBody.readJson
      let amount ← (Amount.ofDecimal body.amount).mapError LedgerError.response
      return .move kind id amount

def action (request : Request) : Action :=
  match Resource.ofPath? request.path with
  | none => .answer (.bare 404)
  | some resource =>
      if resource.methods.contains request.method then
        match request.actionOn resource with
        | .ok action => action
        | .error response => .answer response
      else
        .answer { Response.bare 405 with allow := some (",".intercalate resource.methods) }

end Request

end Passbook.Http
