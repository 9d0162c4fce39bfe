import Passbook.Call.PostingError
import Passbook.Call.Turn
import Passbook.Posting

/-!
Posting a credit or a debit: open a unit of work, lock the account, judge the movement, stage the
new balance and the entry, and commit. The caller's bounds are looked at before every step up to the
commit; a posting that is interrupted gives up what it is doing and drops its unit without waiting,
any other failure before the commit is rolled back first.
-/

set_option autoImplicit false

namespace Passbook

/-- A movement that a caller wants, within bounds. -/
structure Posting where
  context : CallContext
  account : AccountId
  kind : EntryKind
  amount : Amount

/-- What the caller gets for a movement that has been committed. -/
structure Receipt where
  entry : EntryId
  balance : Money
  deriving DecidableEq

namespace Posting

/-- Where a posting stands: the store call it is waiting for, with the unit of work and what is
known by then. -/
inductive Phase (υ π : Type)
  | opening (progress : π)
  | locking (unit : υ) (progress : π)
  | writing (unit : υ) (balance : Money) (progress : π)
  | appending (unit : υ) (balance : Money) (progress : π)
  | committing (unit : υ) (receipt : Receipt) (progress : π)
  | undoing (unit : υ) (cause : PostingError) (progress : π)

abbrev Result := Except PostingError Receipt

variable {σ υ π : Type}

/-- The request for the row. It waits no longer than the caller. -/
def lockRequest (posting : Posting) : Request := .lock posting.account posting.context.deadline

def balanceRequest (posting : Posting) (balance : Money) : Request :=
  .setBalance posting.account balance

def entryRequest (posting : Posting) : Request :=
  .append ⟨some posting.account, posting.amount, posting.kind⟩

/-- Tries a store call unless the caller has been interrupted; then the call is given up. -/
def guarded {α : Type} (posting : Posting) (stage : Stage) (giveUp : World σ → World σ)
    (call : World σ → Poll π (Except StoreError α) × World σ) (world : World σ) :
    Poll π (Except PostingError α) × World σ :=
  match posting.context.interruption world with
  | some interruption => (.ready (.error (.ofInterruption stage interruption)), giveUp world)
  | none =>
      match call world with
      | (.waiting progress, world) => (.waiting progress, world)
      | (.ready result, world) => (.ready (result.mapError (.ofStore stage)), world)

def guardedAsk (store : LedgerStore σ υ π) (posting : Posting) (stage : Stage) (unit : υ)
    (request : Request) (progress : π) (world : World σ) :
    Poll π (Except PostingError request.Reply) × World σ :=
  posting.guarded stage (store.withdraw unit request progress)
    (store.tryAsk unit request progress) world

def failureEvent (error : PostingError) : Log.Event :=
  let fields := [("error", error.message), ("stage", Stage.rolledBack.name)]
  match error.kind with
  | .notFound => .of .info "posting rejected" fields
  | .insufficientFunds => .of .info "posting rejected" fields
  | .limitExceeded => .of .info "posting rejected" fields
  | .timeout => .of .warn "posting interrupted" fields
  | .cancelled => .of .warn "posting interrupted" fields
  | .internal => .of .error "posting failed" fields

def successEvent (receipt : Receipt) : Log.Event :=
  .of .debug "posting committed" [("transaction_id", receipt.entry.render),
    ("new_balance", receipt.balance.render), ("stage", Stage.committed.name)]

def lockedEvent (account : Account) : Log.Event :=
  .of .debug "account locked"
    [("stage", Stage.lockAcquired.name), ("balance", account.balance.render)]

def finish (result : Result) (world : World σ) : Turn (Phase υ π) Result × World σ :=
  match result with
  | .ok receipt => (.ends (.ok receipt), world.report (successEvent receipt))
  | .error error => (.ends (.error error), world.report (failureEvent error))

/-- Undoes a posting that has failed before its commit. -/
def abort (store : LedgerStore σ υ π) (unit : υ) (cause : PostingError) (world : World σ) :
    Turn (Phase υ π) Result × World σ :=
  if cause.isInterruption then
    let world := world.report (.of .debug "dropping interrupted unit" [("cause", cause.message)])
    finish (.error cause) (store.drop unit world)
  else (.proceeds (.undoing unit cause store.fresh), world)

/-- Judges the movement on the locked account. -/
def judge (store : LedgerStore σ υ π) (posting : Posting) (unit : υ) (account : Account)
    (world : World σ) : Turn (Phase υ π) Result × World σ :=
  let world := world.report (lockedEvent account)
  match post account.balance posting.kind posting.amount with
  | .ok balance => (.proceeds (.writing unit balance store.fresh), world)
  | .error refusal =>
      abort store unit (.ofRefusal posting.account account.balance posting.amount refusal) world

/-- Decides, with everything staged, whether to commit. This is the last look at the caller's
bounds. -/
def decideCommit (store : LedgerStore σ υ π) (posting : Posting) (unit : υ) (receipt : Receipt)
    (world : World σ) : Turn (Phase υ π) Result × World σ :=
  match posting.context.interruption world with
  | some interruption => abort store unit (.ofInterruption .recorded interruption) world
  | none => (.proceeds (.committing unit receipt store.fresh), world)

def step (store : LedgerStore σ υ π) (posting : Posting) :
    Phase υ π → World σ → Turn (Phase υ π) Result × World σ
  | .opening progress, world =>
      match posting.guarded .idle id (store.tryOpenBy posting.context.deadline progress) world with
      | (.waiting progress, world) => (.rests (.opening progress), world)
      | (.ready (.ok unit), world) => (.proceeds (.locking unit store.fresh), world)
      | (.ready (.error error), world) => finish (.error error) world
  | .locking unit progress, world =>
      match guardedAsk store posting .idle unit posting.lockRequest progress world with
      | (.waiting progress, world) => (.rests (.locking unit progress), world)
      | (.ready (.ok (some account)), world) => judge store posting unit account world
      | (.ready (.ok none), world) => abort store unit (.notFound posting.account) world
      | (.ready (.error error), world) => abort store unit error world
  | .writing unit balance progress, world =>
      match guardedAsk store posting .validated unit (posting.balanceRequest balance) progress world
        with
      | (.waiting progress, world) => (.rests (.writing unit balance progress), world)
      | (.ready (.ok ()), world) => (.proceeds (.appending unit balance store.fresh), world)
      | (.ready (.error error), world) => abort store unit error world
  | .appending unit balance progress, world =>
      match guardedAsk store posting .mutated unit posting.entryRequest progress world with
      | (.waiting progress, world) => (.rests (.appending unit balance progress), world)
      | (.ready (.ok entry), world) =>
          decideCommit store posting unit ⟨Entry.id entry, balance⟩ world
      | (.ready (.error error), world) => abort store unit error world
  | .committing unit receipt progress, world =>
      match store.tryFinish unit .commit progress world with
      | (.waiting progress, world) => (.rests (.committing unit receipt progress), world)
      | (.ready (.ok ()), world) => finish (.ok receipt) world
      | (.ready (.error error), world) => finish (.error (.ofStore .recorded error)) world
  | .undoing unit cause progress, world =>
      match store.tryFinish unit .rollback progress world with
      | (.waiting progress, world) => (.rests (.undoing unit cause progress), world)
      | (.ready (.ok ()), world) => finish (.error cause) world
      | (.ready (.error error), world) =>
          finish (.error cause) (world.report (.of .warn "rollback failed"
            [("error", error.message), ("cause", cause.message)]))

def start (store : LedgerStore σ υ π) : Phase υ π := .opening store.fresh

/-- Tries a posting. It takes at most seven steps from its start to its end. -/
def tryPost (store : LedgerStore σ υ π) (posting : Posting) :
    Phase υ π → World σ → Poll (Phase υ π) Result × World σ :=
  settle (step store posting) 7

/-- Gives up a posting: the request in progress is withdrawn and the unit is dropped. -/
def giveUp (store : LedgerStore σ υ π) (posting : Posting) (phase : Phase υ π) (world : World σ) :
    World σ :=
  match phase with
  | .opening _ => world
  | .locking unit progress =>
      store.drop unit (store.withdraw unit posting.lockRequest progress world)
  | .writing unit balance progress =>
      store.drop unit (store.withdraw unit (posting.balanceRequest balance) progress world)
  | .appending unit _ progress =>
      store.drop unit (store.withdraw unit posting.entryRequest progress world)
  | .committing unit _ _ => store.drop unit world
  | .undoing unit _ _ => store.drop unit world

def wakeAt (store : LedgerStore σ υ π) (posting : Posting) : Phase υ π → Option Nat
  | .opening progress => soonest (store.wakeAt progress) posting.context.deadline.instant
  | .locking _ progress => soonest (store.wakeAt progress) posting.context.deadline.instant
  | .writing _ _ progress => soonest (store.wakeAt progress) posting.context.deadline.instant
  | .appending _ _ progress => soonest (store.wakeAt progress) posting.context.deadline.instant
  | .committing _ _ progress => store.wakeAt progress
  | .undoing _ _ progress => store.wakeAt progress

end Posting

end Passbook
