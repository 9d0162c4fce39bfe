import Passbook.Call.Posting
import Passbook.Call.Query
import Passbook.Http.Request

/-!
Answering a request: the call it denotes is run, its result is turned into an answer, and the status
is reported as an event.
-/

set_option autoImplicit false

namespace Passbook.Http

/-- The call that a request has started. -/
inductive Work (υ π : Type)
  | none (response : Response)
  | creating (registration : Registration) (deadline : Deadline) (phase : Query.Phase υ π Account)
  | finding (id : AccountId) (deadline : Deadline) (phase : Query.Phase υ π (Option Account))
  | listing (id : AccountId) (deadline : Deadline) (phase : Query.Phase υ π (Option Statement))
  | moving (posting : Posting) (phase : Posting.Phase υ π)

/-- A request that is being answered. -/
structure Exchange (υ π : Type) where
  request : Request
  work : Work υ π

/-- An answer with its request identifier. -/
structure Answer where
  id : RequestId
  response : Response
  deriving DecidableEq

def createdResponse : Except StoreError Account → Response
  | .ok account => .json 201 account.writeJson
  | .error error => error.response

def noAccount : Response := .failure 404 "not_found" "account not found"

def foundResponse : Except StoreError (Option Account) → Response
  | .ok (some account) => .json 200 account.writeJson
  | .ok none => noAccount
  | .error error => error.response

def listedResponse : Except StoreError (Option Statement) → Response
  | .ok (some statement) =>
      .json 200 (Json.writeObject
        [("items", Json.writeArray (statement.entries.map Entry.writeJson))])
  | .ok none => noAccount
  | .error error => error.response

def movedResponse : Posting.Result → Response
  | .ok receipt =>
      .json 200 (Json.writeObject [("transaction_id", Json.writeInt receipt.entry.value),
        ("new_balance", receipt.balance.value.writeJson)])
  | .error error => error.response

/-- The bounds of the call that answers a request: all that it may take is the given time from now
on. -/
def callContext (now timeout : Nat) : CallContext := CallContext.unbounded.withTimeout now timeout

namespace Exchange

variable {σ υ π : Type}

/-- Starts answering a request, by the call that it denotes. -/
def start (store : LedgerStore σ υ π) (now timeout : Nat) (request : Request) : Exchange υ π where
  request
  work :=
    let context := callContext now timeout
    match request.action with
    | .answer response => .none response
    | .create registration => .creating registration context.deadline (Query.start store)
    | .find id => .finding id context.deadline (Query.start store)
    | .list id => .listing id context.deadline (Query.start store)
    | .move kind id amount => .moving ⟨context, id, kind, amount⟩ (Posting.start store)

/-- What is sent of a response: a request for the head alone gets no body. -/
def sent (request : Request) (response : Response) : Response :=
  if request.method = "HEAD" then { response with body := [] } else response

/-- Finishes the answer, whose status is reported. -/
def finish (request : Request) (response : Response) (world : World σ) : Answer × World σ :=
  let response := sent request response
  (⟨request.id, response⟩,
    world.report (.of .info "request completed" [("status", toString response.status)]))

def reportFault {α : Type} (result : Except StoreError α) (world : World σ) : World σ :=
  match result with
  | .ok _ => world
  | .error error => error.responseEvents.foldl World.report world

/-- What a step of the call makes of the exchange. When the call ends, its result is reported and
turned into a response. -/
def afterStep {κ ρ : Type} (request : Request) (rest : κ → Work υ π)
    (report : ρ → World σ → World σ) (respond : ρ → Response) :
    Turn κ ρ × World σ → Turn (Exchange υ π) Answer × World σ
  | (.rests call, world) => (.rests ⟨request, rest call⟩, world)
  | (.proceeds call, world) => (.proceeds ⟨request, rest call⟩, world)
  | (.ends result, world) =>
      let (answer, world) := finish request (respond result) (report result world)
      (.ends answer, world)

def step (store : LedgerStore σ υ π) (exchange : Exchange υ π) (world : World σ) :
    Turn (Exchange υ π) Answer × World σ :=
  let request := exchange.request
  match exchange.work with
  | .none response =>
      let (answer, world) := finish request response world
      (.ends answer, world)
  | .creating registration deadline phase =>
      afterStep request (.creating registration deadline) reportFault createdResponse
        (Query.step store (.create registration deadline) phase world)
  | .finding id deadline phase =>
      afterStep request (.finding id deadline) reportFault foundResponse
        (Query.step store (.byId id deadline) phase world)
  | .listing id deadline phase =>
      afterStep request (.listing id deadline) reportFault listedResponse
        (Query.step store (.statement id deadline) phase world)
  | .moving posting phase =>
      afterStep request (.moving posting) (fun _ world => world) movedResponse
        (Posting.step store posting phase world)

/-- Tries to answer. No call takes more than seven steps from its start to its end. -/
def tryAnswer (store : LedgerStore σ υ π) :
    Exchange υ π → World σ → Poll (Exchange υ π) Answer × World σ :=
  settle (step store) 7

def giveUp (store : LedgerStore σ υ π) (exchange : Exchange υ π) : World σ → World σ :=
  match exchange.work with
  | .none _ => id
  | .creating _ _ phase => Query.giveUp store phase
  | .finding _ _ phase => Query.giveUp store phase
  | .listing _ _ phase => Query.giveUp store phase
  | .moving posting phase => Posting.giveUp store posting phase

def wakeAt (store : LedgerStore σ υ π) (exchange : Exchange υ π) : Option Nat :=
  match exchange.work with
  | .none _ => none
  | .creating registration deadline phase => (Query.create registration deadline).wakeAt store phase
  | .finding id deadline phase => (Query.byId id deadline).wakeAt store phase
  | .listing id deadline phase => (Query.statement id deadline).wakeAt store phase
  | .moving posting phase => posting.wakeAt store phase

end Exchange

end Passbook.Http
