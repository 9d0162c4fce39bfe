import Passbook.Call.Posting
import Passbook.Call.Query
import Passbook.Database.Store
import Passbook.Outcome
import Passbook.Store.Wish

/-!
Rehearsals: commands given to the store over a database that follows a script. With each command
come the reactions of the database to what the command makes it receive; reactions that are left
over are forgotten. The clock stands still unless a call waits for the connection.
-/

set_option autoImplicit false

namespace Passbook.Database

/-- A command. Timeouts are in milliseconds. -/
inductive Command
  /-- Opens a unit, when the pool holds its connection back for some milliseconds. -/
  | openUnit (delay : Nat)
  | ask (wish : Wish)
  | finish (ending : Ending)
  | dropUnit
  | describeUnit
  | create (username passwordHash : String) (timeout : Option Nat)
  | statement (id : AccountId) (timeout : Option Nat)
  | move (kind : EntryKind) (id : AccountId) (amount : Decimal) (timeout : Option Nat)
  | close

/-- The clock of a rehearsal counts milliseconds. -/
def clockResolution : Nat := 1

def rehearsed : LedgerStore Pool Unit Progress := store clockResolution

def deadlineIn (world : World Pool) : (timeout : Option Nat) → Deadline
  | some timeout => .after world.now timeout
  | none => .never

def nextMoment? (wakeAt : Option Nat) (world : World Pool) : Option Nat :=
  ((wakeAt.toList ++ [world.store.handsOutFrom]).filter (world.now < ·)).min?

/-- Runs a call to its end. While it waits, the clock goes on to the next moment. -/
def runCall {κ : Type} (attempt : κ → World Pool → Poll κ Outcome × World Pool)
    (wakeAt : κ → Option Nat) : (moments : Nat) → κ → World Pool → Outcome × World Pool
  | 0, _, world => (.blocked, world)
  | moments + 1, call, world =>
      match attempt call world with
      | (.ready outcome, world) => (outcome, world)
      | (.waiting call, world) =>
          match nextMoment? (wakeAt call) world with
          | some now => runCall attempt wakeAt moments call { world with now }
          | none => (.blocked, world)

/-- The moments that a call can wait for: a connection that was held back, a deadline, and the end
of the pool's patience. -/
def momentCount : Nat := 4

def pollOutcome {κ ρ : Type} (outcome : ρ → Outcome) :
    Poll κ ρ × World Pool → Poll κ Outcome × World Pool
  | (.ready result, world) => (.ready (outcome result), world)
  | (.waiting call, world) => (.waiting call, world)

def runOpen (world : World Pool) : Outcome × World Pool :=
  runCall (fun progress world => pollOutcome (.ofResult fun _ => .done)
    (rehearsed.tryOpen progress world)) rehearsed.wakeAt momentCount rehearsed.fresh world

def runQuery {α : Type} (query : Query α) (success : α → Outcome) (world : World Pool) :
    Outcome × World Pool :=
  runCall (fun phase world => pollOutcome (.ofResult success) (query.tryRun rehearsed phase world))
    (query.wakeAt rehearsed) momentCount (Query.start rehearsed) world

def runPosting (posting : Posting) (world : World Pool) : Outcome × World Pool :=
  runCall (fun phase world => pollOutcome .ofPosting (posting.tryPost rehearsed phase world))
    (posting.wakeAt rehearsed) momentCount (Posting.start rehearsed) world

/-- Runs a command that needs no unit, or opens one. -/
def runFree (world : World Pool) : Command → Outcome × World Pool
  | .openUnit delay =>
      runOpen { world with store := { world.store with handsOutFrom := world.now + delay } }
  | .create username passwordHash timeout =>
      match Registration.make username passwordHash with
      | .ok registration =>
          runQuery (.create registration (deadlineIn world timeout)) .account world
      | .error refusal => (.refused refusal, world)
  | .statement id timeout => runQuery (.statement id (deadlineIn world timeout)) .statement world
  | .move kind id amount timeout =>
      match Amount.ofDecimal amount with
      | .ok amount =>
          runPosting ⟨CallContext.unbounded.withDeadline (deadlineIn world timeout),
            id, kind, amount⟩ world
      | .error refusal => (.refused refusal, world)
  | .close => (.done, { world with store := world.store.close })
  | _ => (.noUnit, world)

def runInUnit (world : World Pool) : Command → Outcome × World Pool
  | .ask wish =>
      match wish.request world.now with
      | .ok request => (ask clockResolution request world).map (.ofReply request) id
      | .error refusal => (.refused refusal, world)
  | .finish ending => (finish ending world).map (.ofResult fun _ => .done) id
  | .dropUnit => (.done, drop world)
  | .describeUnit => (.described unitDescription, world)
  | command => runFree world command

def run (world : World Pool) (command : Command) (replies : StatementKind → Option Reply) :
    Outcome × World Pool :=
  let world :=
    { world with store := { world.store with server := { world.store.server with replies } } }
  if world.store.isUsed then runInUnit world command else runFree world command

def opening (requiresEncryption : Bool) : World Pool := ⟨0, [], .fresh requiresEncryption, []⟩

/-- All statements that the database has received, the oldest first, after the last unit has been
dropped. -/
def received (world : World Pool) : List Statement :=
  (drop world).store.tidy.server.received.reverse

end Passbook.Database
