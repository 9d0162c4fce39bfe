import Passbook.Account
import Passbook.Call.World
import Passbook.Deadline
import Passbook.Entry
import Passbook.Store.Error

/-!
What a ledger needs of a store. All reading and writing happens in units of work: a unit is opened,
asked, and in the end committed or rolled back; a unit that is merely dropped is rolled back. Every
call may have to wait. `LedgerStore` gives each call as a step that either answers or says what it
is waiting with, to be tried again later.
-/

set_option autoImplicit false

namespace Passbook

/-- What a unit of work can be asked. -/
inductive Request
  /-- Reads an account and holds its row until the unit ends. -/
  | lock (account : AccountId) (deadline : Deadline)
  | find (account : AccountId)
  | findName (username : String)
  | insert (registration : Registration)
  | setBalance (account : AccountId) (balance : Money)
  | append (draft : EntryDraft)
  /-- The entries of an account, in the order of their recording. -/
  | list (account : AccountId)
  deriving DecidableEq

/-- The type of the answer to a request. -/
abbrev Request.Reply : Request → Type
  | lock _ _ => Option Account
  | find _ => Option Account
  | findName _ => Option Account
  | insert _ => Account
  | setBalance _ _ => Unit
  | append _ => Entry
  | list _ => List Entry

/-- How a unit of work is ended. -/
inductive Ending
  | commit
  | rollback
  deriving DecidableEq

/-- The result of trying a call. -/
inductive Poll (π ρ : Type)
  | waiting (progress : π)
  | ready (result : ρ)

/-- A store with state `σ`, units of work `υ`, and calls in progress `π`. -/
structure LedgerStore (σ υ π : Type) where
  /-- A call that has not been tried yet. -/
  fresh : π
  /-- Tries to open a unit. An opening that is given up leaves nothing behind. -/
  tryOpen : π → World σ → Poll π (Except StoreError υ) × World σ
  /-- Tries a request. -/
  tryAsk : υ → (request : Request) → π → World σ →
    Poll π (Except StoreError request.Reply) × World σ
  /-- Tries to end a unit. -/
  tryFinish : υ → Ending → π → World σ → Poll π (Except StoreError Unit) × World σ
  /-- Gives up a request in progress. -/
  withdraw : υ → Request → π → World σ → World σ
  /-- Drops a unit. -/
  drop : υ → World σ → World σ
  /-- The moment at which a call in progress goes on by itself. -/
  wakeAt : π → Option Nat

/-- Tries to open a unit, until a deadline. The opening is tried once more when the deadline has
passed. -/
def LedgerStore.tryOpenBy {σ υ π : Type} (store : LedgerStore σ υ π) (deadline : Deadline)
    (progress : π) (world : World σ) : Poll π (Except StoreError υ) × World σ :=
  match store.tryOpen progress world with
  | (.waiting progress, world) =>
      if deadline.hasPassed world.now then
        (.ready (.error ⟨.lockTimeout, "deadline passed while opening a unit of work"⟩), world)
      else (.waiting progress, world)
  | answered => answered

end Passbook
