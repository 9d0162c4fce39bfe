import Passbook.Memory.Basic
import Passbook.Store.Interface

/-!
The ledger in memory as a store. A call waits for two reasons only: a delay that was ordered for it,
and a row that another unit holds. Rows are handed on in the order of arrival.
-/

set_option autoImplicit false

namespace Passbook.Memory

/-- A call in progress. -/
inductive Progress
  | fresh
  | sleeping (wakeAt : Nat)
  | queued (deadline : Deadline)
  deriving DecidableEq

def Progress.wakeAt : Progress → Option Nat
  | fresh => none
  | sleeping wakeAt => some wakeAt
  | queued deadline => deadline.instant

abbrev Attempt (α : Type) := Poll Progress (Except StoreError α) × World Memory

def update (world : World Memory) (change : Memory → Memory) : World Memory :=
  { world with store := change world.store }

def injected : FaultPoint → StoreError
  | .opening => ⟨.unavailable, "injected fault at begin"⟩
  | .setBalance => ⟨.backend, "injected fault at SetBalance"⟩
  | .append => ⟨.backend, "injected fault at AppendTransaction"⟩
  | .commit => ⟨.backend, "injected fault at Commit"⟩
  | .rollback => ⟨.backend, "injected fault at Rollback"⟩

/-- Fails if that has been ordered; the order is used up. -/
def checkFault (point : FaultPoint) (world : World Memory) : Attempt Unit :=
  if world.store.faults point then
    (.ready (.error (injected point)),
      update world fun memory => { memory with faults := assign memory.faults point false })
  else (.ready (.ok ()), world)

/-- Passes a place where failures and delays can be ordered. The delay comes first and is used up
when it begins. -/
def enter (point : FaultPoint) (progress : Progress) (world : World Memory) : Attempt Unit :=
  let (wakeAt, world) := match progress with
    | .sleeping wakeAt => (wakeAt, world)
    | _ =>
        match world.store.delays point with
        | some delay =>
            (world.now + delay,
              update world fun memory => { memory with delays := assign memory.delays point none })
        | none => (world.now, world)
  if wakeAt ≤ world.now then checkFault point world else (.waiting (.sleeping wakeAt), world)

/-- Passes such a place, then goes on. -/
def afterEntering {α : Type} (point : FaultPoint) (progress : Progress) (world : World Memory)
    (next : World Memory → Attempt α) : Attempt α :=
  match enter point progress world with
  | (.waiting progress, world) => (.waiting progress, world)
  | (.ready (.error error), world) => (.ready (.error error), world)
  | (.ready (.ok ()), world) => next world

/-- Waits for a row, then goes on. A row that is free at the deadline is still taken. -/
def afterLocking {α : Type} (unit : UnitId) (id : AccountId) (deadline : Deadline)
    (world : World Memory) (next : World Memory → Attempt α) : Attempt α :=
  let world := update world fun memory => memory.join unit id
  if world.store.holds unit id then next world
  else if deadline.hasPassed world.now then
    (.ready (.error ⟨.lockTimeout, "account " ++ id.render ++ " is locked by another unit"⟩),
      update world fun memory => memory.leave unit id)
  else (.waiting (.queued deadline), world)

def timeAt (now : Nat) : Time.Timestamp := (Time.Timestamp.ofMicros? (now * 1000)).getD .epoch

def tryOpen (progress : Progress) (world : World Memory) : Attempt UnitId :=
  afterEntering .opening progress world fun world =>
    let (unit, memory) := world.store.openUnit
    (.ready (.ok unit), { world with store := memory })

/-- Tries to lock an account. The row of an account that does not exist is not held. -/
def tryLock (unit : UnitId) (id : AccountId) (deadline : Deadline) (world : World Memory) :
    Attempt (Option Account) :=
  afterLocking unit id deadline world fun world =>
    match world.store.view unit id with
    | some account => (.ready (.ok (some account)), world)
    | none => (.ready (.ok none), update world fun memory => memory.leave unit id)

def tryInsert (unit : UnitId) (registration : Registration) (world : World Memory) :
    Attempt Account :=
  if world.store.isTaken unit registration.username then
    (.ready (.error ⟨.conflict, "username '" ++ registration.username ++ "' already exists"⟩),
      world)
  else
    let (account, memory) := world.store.create unit registration
    (.ready (.ok account), { world with store := memory })

/-- Tries to stage a balance, once the row is held. -/
def trySetHeld (unit : UnitId) (id : AccountId) (balance : Money) (world : World Memory) :
    Attempt Unit :=
  afterLocking unit id .never world fun world =>
    if (world.store.view unit id).isSome then
      (.ready (.ok ()), update world fun memory => memory.setBalance unit id balance)
    else (.ready (.error ⟨.missingRow, "account " ++ id.render⟩), world)

def trySetBalance (unit : UnitId) (id : AccountId) (balance : Money) (progress : Progress)
    (world : World Memory) : Attempt Unit :=
  match progress with
  | .queued _ => trySetHeld unit id balance world
  | progress =>
      afterEntering .setBalance progress world fun world =>
        if balance.isNegative then
          (.ready (.error ⟨.constraint,
            "balance of account " ++ id.render ++ " must not be negative"⟩), world)
        else trySetHeld unit id balance world

def tryAppend (unit : UnitId) (draft : EntryDraft) (progress : Progress) (world : World Memory) :
    Attempt Entry :=
  afterEntering .append progress world fun world =>
    match draft.account.filter fun id => (world.store.view unit id).isNone with
    | some id =>
        (.ready (.error ⟨.constraint, "transaction references unknown account " ++ id.render⟩),
          world)
    | none =>
        let (entry, memory) := world.store.append unit draft (timeAt world.now)
        (.ready (.ok entry), { world with store := memory })

def tryAsk (unit : UnitId) :
    (request : Request) → Progress → World Memory → Attempt request.Reply
  | .lock id deadline, _, world => tryLock unit id deadline world
  | .find id, _, world => (.ready (.ok (world.store.view unit id)), world)
  | .findName username, _, world =>
      (.ready (.ok ((world.store.idOfName? unit username).bind (world.store.view unit))), world)
  | .insert registration, _, world => tryInsert unit registration world
  | .setBalance id balance, progress, world => trySetBalance unit id balance progress world
  | .append draft, progress, world => tryAppend unit draft progress world
  | .list id, _, world => (.ready (.ok (world.store.history unit id)), world)

/-- Tries to commit. A commit that fails ends the unit too. -/
def tryCommit (unit : UnitId) (progress : Progress) (world : World Memory) : Attempt Unit :=
  match enter .commit progress world with
  | (.waiting progress, world) => (.waiting progress, world)
  | (.ready (.error error), world) =>
      (.ready (.error error), update world fun memory => memory.discard unit)
  | (.ready (.ok ()), world) =>
      match world.store.clash? unit with
      | some account =>
          (.ready (.error ⟨.conflict, "username '" ++ account.username ++ "' already exists"⟩),
            update world fun memory => memory.discard unit)
      | none => (.ready (.ok ()), update world fun memory => memory.publish unit)

/-- Tries to roll back. The unit ends whether or not that succeeds. -/
def tryRollback (unit : UnitId) (progress : Progress) (world : World Memory) : Attempt Unit :=
  match enter .rollback progress world with
  | (.waiting progress, world) => (.waiting progress, world)
  | (.ready result, world) => (.ready result, update world fun memory => memory.discard unit)

def tryFinish (unit : UnitId) : Ending → Progress → World Memory → Attempt Unit
  | .commit => tryCommit unit
  | .rollback => tryRollback unit

/-- Gives up a request. A request that waits for a row leaves the queue. -/
def withdraw (unit : UnitId) (request : Request) (progress : Progress) (world : World Memory) :
    World Memory :=
  match request, progress with
  | .lock id _, .queued _ => update world fun memory => memory.leave unit id
  | .setBalance id _, .queued _ => update world fun memory => memory.leave unit id
  | _, _ => world

def store : LedgerStore Memory UnitId Progress where
  fresh := .fresh
  tryOpen
  tryAsk
  tryFinish
  withdraw
  drop unit world := update world fun memory => memory.discard unit
  wakeAt := Progress.wakeAt

end Passbook.Memory
