import Passbook.Call.Turn
import Passbook.Posting

/-!
Calls other than postings. Each runs a script of requests in a unit of work of its own, commits if
all of them succeed and rolls back if one does not. The result is that of the script, unless the
commit fails.
-/

set_option autoImplicit false

namespace Passbook

/-- Requests to make in one unit of work, each depending on the replies before it. -/
inductive Script (α : Type)
  | done (answer : α)
  | ask (request : Request) (next : request.Reply → Script α)

def Script.map {α β : Type} (transform : α → β) : Script α → Script β
  | done answer => .done (transform answer)
  | ask request next => .ask request fun reply => (next reply).map transform

/-- A script, the deadline for opening its unit, and whether its errors are reported as events. -/
structure Query (α : Type) where
  script : Script α
  deadline : Deadline
  isReported : Bool

namespace Query

def create (registration : Registration) (deadline : Deadline) : Query Account :=
  ⟨.ask (.insert registration) .done, deadline, true⟩

def byId (id : AccountId) (deadline : Deadline) : Query (Option Account) :=
  ⟨.ask (.find id) .done, deadline, false⟩

def byName (username : String) (deadline : Deadline) : Query (Option Account) :=
  ⟨.ask (.findName username) .done, deadline, false⟩

def history (id : AccountId) (deadline : Deadline) : Query (List Entry) :=
  ⟨.ask (.list id) .done, deadline, false⟩

/-- Reads an account together with its entries, while its row is held, so that they agree. -/
def statement (id : AccountId) (deadline : Deadline) : Query (Option Statement) where
  script := .ask (.lock id deadline) fun
    | none => .done none
    | some account => .ask (.list id) fun entries => .done (some ⟨account, entries⟩)
  deadline
  isReported := true

def map {α β : Type} (query : Query α) (transform : α → β) : Query β :=
  ⟨query.script.map transform, query.deadline, query.isReported⟩

inductive Phase (υ π α : Type)
  | opening (progress : π)
  | asking (unit : υ) (request : Request) (next : request.Reply → Script α) (progress : π)
  | committing (unit : υ) (answer : α) (progress : π)
  | undoing (unit : υ) (cause : StoreError) (progress : π)

abbrev Result (α : Type) := Except StoreError α

variable {σ υ π α : Type}

def proceed (store : LedgerStore σ υ π) (unit : υ) : Script α → Phase υ π α
  | .done answer => .committing unit answer store.fresh
  | .ask request next => .asking unit request next store.fresh

def finish (query : Query α) (result : Result α) (world : World σ) :
    Turn (Phase υ π α) (Result α) × World σ :=
  match result with
  | .ok answer => (.ends (.ok answer), world)
  | .error error =>
      (.ends (.error error),
        if query.isReported then world.report (.failure error.message) else world)

def step (store : LedgerStore σ υ π) (query : Query α) :
    Phase υ π α → World σ → Turn (Phase υ π α) (Result α) × World σ
  | .opening progress, world =>
      match store.tryOpenBy query.deadline progress world with
      | (.waiting progress, world) => (.rests (.opening progress), world)
      | (.ready (.ok unit), world) => (.proceeds (proceed store unit query.script), world)
      | (.ready (.error error), world) => query.finish (.error error) world
  | .asking unit request next progress, world =>
      match store.tryAsk unit request progress world with
      | (.waiting progress, world) => (.rests (.asking unit request next progress), world)
      | (.ready (.ok reply), world) => (.proceeds (proceed store unit (next reply)), world)
      | (.ready (.error error), world) => (.proceeds (.undoing unit error store.fresh), world)
  | .committing unit answer progress, world =>
      match store.tryFinish unit .commit progress world with
      | (.waiting progress, world) => (.rests (.committing unit answer progress), world)
      | (.ready (.ok ()), world) => query.finish (.ok answer) world
      | (.ready (.error error), world) => query.finish (.error error) world
  | .undoing unit cause progress, world =>
      match store.tryFinish unit .rollback progress world with
      | (.waiting progress, world) => (.rests (.undoing unit cause progress), world)
      | (.ready (.ok ()), world) => query.finish (.error cause) world
      | (.ready (.error error), world) =>
          query.finish (.error cause) (world.report (.of .warn "rollback failed"
            [("error", error.message), ("original", cause.message)]))

def start (store : LedgerStore σ υ π) : Phase υ π α := .opening store.fresh

/-- Tries a query. The scripts above have at most two requests, so five steps lead from start to
end. -/
def tryRun (store : LedgerStore σ υ π) (query : Query α) :
    Phase υ π α → World σ → Poll (Phase υ π α) (Result α) × World σ :=
  settle (step store query) 5

/-- Gives up a query: the request in progress is withdrawn and the unit is dropped. -/
def giveUp (store : LedgerStore σ υ π) (phase : Phase υ π α) (world : World σ) : World σ :=
  match phase with
  | .opening _ => world
  | .asking unit request _ progress => store.drop unit (store.withdraw unit request progress world)
  | .committing unit _ _ => store.drop unit world
  | .undoing unit _ _ => store.drop unit world

def wakeAt (store : LedgerStore σ υ π) (query : Query α) : Phase υ π α → Option Nat
  | .opening progress => soonest (store.wakeAt progress) query.deadline.instant
  | .asking _ _ _ progress => store.wakeAt progress
  | .committing _ _ progress => store.wakeAt progress
  | .undoing _ _ progress => store.wakeAt progress

end Query

end Passbook
