import Passbook.Assign
import Passbook.Store.Interface

/-!
A store that can be rigged. An order for a kind of call takes effect on the next call of that kind,
when it is first tried, and is used up by it: either the call fails without reaching the store
behind, or a token is used right after the call has succeeded. Without orders the store behaves like
the one behind it.
-/

set_option autoImplicit false

namespace Passbook

/-- The kinds of calls. -/
inductive CallKind
  | opening
  | lock
  | find
  | findName
  | insert
  | setBalance
  | append
  | list
  | commit
  | rollback
  deriving DecidableEq

def Request.callKind : Request → CallKind
  | lock _ _ => .lock
  | find _ => .find
  | findName _ => .findName
  | insert _ => .insert
  | setBalance _ _ => .setBalance
  | append _ => .append
  | list _ => .list

def Ending.callKind : Ending → CallKind
  | commit => .commit
  | rollback => .rollback

/-- What happens to the next call of a kind. -/
inductive Order
  | fail (error : StoreError)
  | cancel (token : Token)

/-- A store and the orders for it. -/
structure Rigged (σ : Type) where
  inner : σ
  orders : CallKind → Option Order

namespace Rigged

/-- A call in progress. -/
inductive Progress (π : Type)
  | fresh
  | passed (token : Option Token) (progress : π)

def plain {σ : Type} (inner : σ) : Rigged σ := ⟨inner, fun _ => none⟩

/-- The surroundings as the store behind sees them. -/
def inside {σ : Type} (world : World (Rigged σ)) : World σ :=
  ⟨world.now, world.cancelled, world.store.inner, world.events⟩

/-- The surroundings after a call of the store behind. -/
def outside {σ : Type} (world : World (Rigged σ)) (after : World σ) : World (Rigged σ) :=
  ⟨after.now, after.cancelled, { world.store with inner := after.store }, after.events⟩

def change {σ : Type} (step : World σ → World σ) (world : World (Rigged σ)) : World (Rigged σ) :=
  outside world (step (inside world))

def order {σ : Type} (world : World (Rigged σ)) (kind : CallKind) (order : Order) :
    World (Rigged σ) :=
  { world with store := { world.store with orders := assign world.store.orders kind (some order) } }

def useUp {σ : Type} (world : World (Rigged σ)) (kind : CallKind) : World (Rigged σ) :=
  { world with store := { world.store with orders := assign world.store.orders kind none } }

def pass {σ π α : Type} (token : Option Token) (progress : π)
    (call : π → World σ → Poll π (Except StoreError α) × World σ) (world : World (Rigged σ)) :
    Poll (Progress π) (Except StoreError α) × World (Rigged σ) :=
  match call progress (inside world) with
  | (.waiting progress, after) => (.waiting (.passed token progress), outside world after)
  | (.ready (.error error), after) => (.ready (.error error), outside world after)
  | (.ready (.ok value), after) =>
      match token with
      | some token => (.ready (.ok value), (outside world after).cancel token)
      | none => (.ready (.ok value), outside world after)

/-- Tries a call. `refuse` is what a failure by order does to the surroundings. -/
def attempt {σ π α : Type} (kind : CallKind) (fresh : π)
    (refuse : World (Rigged σ) → World (Rigged σ))
    (call : π → World σ → Poll π (Except StoreError α) × World σ) (progress : Progress π)
    (world : World (Rigged σ)) : Poll (Progress π) (Except StoreError α) × World (Rigged σ) :=
  match progress with
  | .passed token progress => pass token progress call world
  | .fresh =>
      match world.store.orders kind with
      | some (.fail error) => (.ready (.error error), refuse (useUp world kind))
      | some (.cancel token) => pass (some token) fresh call (useUp world kind)
      | none => pass none fresh call world

/-- The rigged form of a store. A unit whose ending fails by order is dropped. -/
def store {σ υ π : Type} (behind : LedgerStore σ υ π) : LedgerStore (Rigged σ) υ (Progress π) where
  fresh := .fresh
  tryOpen := attempt .opening behind.fresh id behind.tryOpen
  tryAsk unit request := attempt request.callKind behind.fresh id (behind.tryAsk unit request)
  tryFinish unit ending :=
    attempt ending.callKind behind.fresh (change (behind.drop unit)) (behind.tryFinish unit ending)
  withdraw unit request
    | .fresh => id
    | .passed _ progress => change (behind.withdraw unit request progress)
  drop unit := change (behind.drop unit)
  wakeAt
    | .fresh => none
    | .passed _ progress => behind.wakeAt progress

end Rigged

end Passbook
