import Passbook.Assign
import Passbook.Account
import Passbook.Entry
import Passbook.Deadline

/-!
A ledger kept in memory: the committed accounts and entries, what each open unit of work has staged,
and for each account the queue of the units that hold or want its row. The head of a queue holds the
row, so a row is held by at most one unit, and giving it up is leaving the queue.
-/

set_option autoImplicit false

namespace Passbook

/-- Identifier of a unit of work in memory. -/
structure UnitId where
  number : Nat
  deriving DecidableEq

/-- A place where the store can be made to fail or to stall, once. -/
inductive FaultPoint
  | opening
  | setBalance
  | append
  | commit
  | rollback
  deriving DecidableEq

/-- What a unit of work has written and not published. -/
structure Staged where
  created : List Account
  balances : AccountId → Option Money
  entries : List Entry

def Staged.empty : Staged := ⟨[], fun _ => none, []⟩

/-- An account with the balance that a unit of work has staged for it, if any. -/
def Staged.overlay (staged : Staged) (account : Account) : Account :=
  { account with balance := (staged.balances account.id).getD account.balance }

/-- A ledger in memory. Identifiers are counted upwards and never taken back. The counters have no
bound: they agree with counters of signed 64-bit numbers for the first `2 ^ 63 - 1` accounts and
entries that are drawn, whether they are committed or not. -/
structure Memory where
  accounts : List Account
  entries : List Entry
  units : UnitId → Option Staged
  queues : AccountId → List UnitId
  faults : FaultPoint → Bool
  delays : FaultPoint → Option Nat
  lastAccount : Nat
  lastEntry : Nat
  lastUnit : Nat

namespace Memory

def empty : Memory where
  accounts := []
  entries := []
  units _ := none
  queues _ := []
  faults _ := false
  delays _ := none
  lastAccount := 0
  lastEntry := 0
  lastUnit := 0

instance : Inhabited Memory := ⟨empty⟩

def staged (memory : Memory) (unit : UnitId) : Staged := (memory.units unit).getD .empty

def stage (memory : Memory) (unit : UnitId) (staged : Staged) : Memory :=
  { memory with units := assign memory.units unit (some staged) }

def account? (memory : Memory) (id : AccountId) : Option Account :=
  memory.accounts.find? fun account => account.id == id

/-- An account as a unit sees it: committed or created by the unit, with the unit's own balance. -/
def view (memory : Memory) (unit : UnitId) (id : AccountId) : Option Account :=
  let staged := memory.staged unit
  ((staged.created.find? fun account => account.id == id) <|> memory.account? id).map staged.overlay

/-- The identifier that a unit finds under a user name. The unit's own accounts come first. -/
def idOfName? (memory : Memory) (unit : UnitId) (username : String) : Option AccountId :=
  (((memory.staged unit).created.find? fun account => account.username == username) <|>
    memory.accounts.find? fun account => account.username == username).map (·.id)

/-- Whether a user name is taken, as a unit sees it. -/
def isTaken (memory : Memory) (unit : UnitId) (username : String) : Bool :=
  (memory.idOfName? unit username).isSome

def history (memory : Memory) (unit : UnitId) (id : AccountId) : List Entry :=
  (memory.entries ++ (memory.staged unit).entries).filter fun entry => entry.account == some id

def holds (memory : Memory) (unit : UnitId) (id : AccountId) : Bool :=
  (memory.queues id).head? == some unit

/-- Puts a unit at the end of the queue for a row, unless it is in the queue already. -/
def join (memory : Memory) (unit : UnitId) (id : AccountId) : Memory :=
  if (memory.queues id).contains unit then memory
  else { memory with queues := assign memory.queues id (memory.queues id ++ [unit]) }

/-- Takes a unit out of the queue for a row; if it held the row, the next in the queue holds it now.
-/
def leave (memory : Memory) (unit : UnitId) (id : AccountId) : Memory :=
  { memory with queues := assign memory.queues id ((memory.queues id).filter (· != unit)) }

/-- Ends a unit without publishing: what it staged is lost and it leaves every queue. -/
def discard (memory : Memory) (unit : UnitId) : Memory :=
  { memory with
    units := assign memory.units unit none
    queues := fun id => (memory.queues id).filter (· != unit) }

def openUnit (memory : Memory) : UnitId × Memory :=
  let unit : UnitId := ⟨memory.lastUnit + 1⟩
  (unit, { memory with units := assign memory.units unit (some .empty), lastUnit := unit.number })

def create (memory : Memory) (unit : UnitId) (registration : Registration) : Account × Memory :=
  let account := registration.account ⟨memory.lastAccount + 1⟩
  let staged := memory.staged unit
  (account, { memory.stage unit { staged with created := staged.created ++ [account] } with
    lastAccount := memory.lastAccount + 1 })

def setBalance (memory : Memory) (unit : UnitId) (id : AccountId) (balance : Money) : Memory :=
  let staged := memory.staged unit
  memory.stage unit { staged with balances := assign staged.balances id (some balance) }

def append (memory : Memory) (unit : UnitId) (draft : EntryDraft) (time : Time.Timestamp) :
    Entry × Memory :=
  let entry := draft.entry ⟨memory.lastEntry + 1⟩ time
  let staged := memory.staged unit
  (entry, { memory.stage unit { staged with entries := staged.entries ++ [entry] } with
    lastEntry := memory.lastEntry + 1 })

/-- The first account created by a unit whose user name has been committed by another. -/
def clash? (memory : Memory) (unit : UnitId) : Option Account :=
  (memory.staged unit).created.find? fun account =>
    memory.accounts.any fun committed => committed.username == account.username

/-- Publishes what a unit has staged, and ends it. -/
def publish (memory : Memory) (unit : UnitId) : Memory :=
  let staged := memory.staged unit
  { memory with
    accounts := (memory.accounts ++ staged.created).map staged.overlay
    entries := memory.entries ++ staged.entries }.discard unit

def failNext (memory : Memory) (point : FaultPoint) : Memory :=
  { memory with faults := assign memory.faults point true }

def delayNext (memory : Memory) (point : FaultPoint) (milliseconds : Nat) : Memory :=
  { memory with delays := assign memory.delays point (some milliseconds) }

end Memory

end Passbook
