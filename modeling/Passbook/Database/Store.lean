import Passbook.Database.Pool
import Passbook.Store.Interface

/-!
The store over a database. A unit of work is one transaction on the connection of the pool; the
database itself keeps rows locked and units apart. A caller's deadline is passed on as a bound on
waiting, so that the database ends the wait. Only the wait for the connection is up to this side.
The clock may be finer than the database's: `resolution` is the number of its moments in a
millisecond.
-/

set_option autoImplicit false

namespace Passbook.Database

/-- How long the pool lets a unit wait for the connection, in milliseconds. -/
def poolPatience : Nat := 30000

/-- A call in progress. Only an opening ever waits; it gives up at a moment. -/
inductive Progress
  | fresh
  | queued (givesUpAt : Nat)
  deriving DecidableEq

abbrev Attempt (α : Type) := Poll Progress (Except StoreError α) × World Pool

/-- The moment at which an opening gives up. -/
def Progress.givesUpAt (resolution : Nat) (progress : Progress) (now : Nat) : Nat :=
  match progress with
  | fresh => now + poolPatience * resolution
  | queued givesUpAt => givesUpAt

def tryOpen (resolution : Nat) (progress : Progress) (world : World Pool) : Attempt Unit :=
  let givesUpAt := progress.givesUpAt resolution world.now
  if world.store.isClosed then (.ready (.error (Failure.closed.error .start)), world)
  else if givesUpAt ≤ world.now then (.ready (.error (Failure.noConnection.error .start)), world)
  else if world.store.isUsed ∨ world.now < world.store.handsOutFrom then
    (.waiting (.queued givesUpAt), world)
  else
    let (result, pool) := world.store.openUnit
    (.ready (result.mapError (·.error .start)), { world with store := pool })

def query {α : Type} (operation : Operation) (statement : Statement)
    (read : Answer → Except StoreError α) (world : World Pool) : Except StoreError α × World Pool :=
  match world.store.send statement with
  | (.ok answer, pool) => (read answer, { world with store := pool })
  | (.error failure, pool) => (.error (failure.error operation), { world with store := pool })

def readFound (answer : Answer) : Except StoreError (Option Account) :=
  match answer.rows with
  | row :: _ => (readAccount row).map some
  | [] => .ok none

def readOne {α : Type} (operation : Operation) (read : Row → Except StoreError α)
    (answer : Answer) :
    Except StoreError α :=
  match answer.rows with
  | row :: _ => read row
  | [] => .error (Failure.noRow.error operation)

/-- The whole milliseconds that are left until a deadline. -/
def millisecondsLeft? (resolution : Nat) (deadline : Deadline) (now : Nat) : Option Nat :=
  (deadline.remaining? now).map (· / resolution)

/-- Locks an account. The wait is bounded first, for the rest of the transaction. -/
def lock (resolution : Nat) (id : AccountId) (deadline : Deadline) (world : World Pool) :
    Except StoreError (Option Account) × World Pool :=
  if deadline.hasPassed world.now then
    (.error ⟨.lockTimeout, "deadline passed before locking account " ++ id.render⟩, world)
  else
    match query .limitWait (.limitWait (millisecondsLeft? resolution deadline world.now)) .ok world
      with
    | (.ok _, world) => query .lock (.lock id) readFound world
    | (.error error, world) => (.error error, world)

def ask (resolution : Nat) (request : Request) (world : World Pool) :
    Except StoreError request.Reply × World Pool :=
  match request with
  | .lock id deadline => lock resolution id deadline world
  | .find id => query .find (.find id) readFound world
  | .findName username => query .findName (.findName username) readFound world
  | .insert registration => query .insert (.insert registration) (readOne .insert readAccount) world
  | .setBalance id balance =>
      query .setBalance (.setBalance id balance)
        (fun answer =>
          if answer.affected = 0 then .error ⟨.missingRow, "account " ++ id.render⟩ else .ok ())
        world
  | .append draft => query .append (.append draft) (readOne .append readEntry) world
  | .list id => query .list (.list id) (fun answer => answer.rows.mapM readEntry) world

def finish (ending : Ending) (world : World Pool) : Except StoreError Unit × World Pool :=
  let (result, pool) := match ending with
    | .commit => (world.store.finish .commit).map (Except.mapError (·.error .commit)) id
    | .rollback => (world.store.finish .rollback).map (Except.mapError (·.error .rollback)) id
  (result, { world with store := pool })

def drop (world : World Pool) : World Pool := { world with store := world.store.release true }

/-- The store over a database. The connection of the pool stands for the unit that uses it. -/
def store (resolution : Nat) : LedgerStore Pool Unit Progress where
  fresh := .fresh
  tryOpen := tryOpen resolution
  tryAsk _ request _ world := (ask resolution request world).map .ready id
  tryFinish _ ending _ world := (finish ending world).map .ready id
  withdraw _ _ _ := id
  drop _ := drop
  wakeAt
    | .fresh => none
    | .queued givesUpAt => some givesUpAt

/-- A unit of work in words. Nothing about it is shown. -/
def unitDescription : String := "PostgresUnit \x7b .. \x7d"

end Passbook.Database
