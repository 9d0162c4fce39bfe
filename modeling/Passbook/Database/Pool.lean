import Passbook.Assign
import Passbook.Database.Row
import Passbook.Database.Statement

/-!
A pool of one connection to a database that follows a script. A unit of work uses the connection
alone, from the start of its transaction to its end. A transaction that was left open is rolled back
before the connection is used again. A broken connection is replaced by the next unit.
-/

set_option autoImplicit false

namespace Passbook.Database

/-- How the database reacts to a statement. -/
inductive Reply
  | rows (rows : List Row)
  | affected (count : Nat)
  | refused (code message : String)
  /-- The connection breaks. -/
  | broken
  deriving DecidableEq

/-- The database: its next reaction to each kind of statement, and the statements it has received,
the newest first. -/
structure Server where
  replies : StatementKind → Option Reply
  received : List Statement

/-- The database after a statement, and its reaction, which is then used up. Without one it does
nothing and is content. -/
def Server.receive (server : Server) (statement : Statement) : Reply × Server :=
  ((server.replies statement.kind).getD (.affected 0),
    ⟨assign server.replies statement.kind none, statement :: server.received⟩)

/-- The connection of a pool. -/
inductive Line
  | down
  /-- Nobody uses the connection. `unfinished` says that a transaction was left open. -/
  | free (unfinished : Bool)
  /-- A unit of work uses the connection. -/
  | used (broken : Bool)
  deriving DecidableEq

def Line.released (unfinished : Bool) : Line → Line
  | .used true => .down
  | .used false => .free unfinished
  | line => line

/-- A pool. `handsOutFrom` is the moment from which on it gives its connection out. -/
structure Pool where
  requiresEncryption : Bool
  isClosed : Bool
  line : Line
  handsOutFrom : Nat
  server : Server

/-- What a successful statement returns. -/
structure Answer where
  rows : List Row
  affected : Nat
  deriving DecidableEq

namespace Pool

def fresh (requiresEncryption : Bool) : Pool :=
  ⟨requiresEncryption, false, .down, 0, ⟨fun _ => none, []⟩⟩

def isUsed (pool : Pool) : Bool :=
  match pool.line with
  | .used _ => true
  | _ => false

def transmit (pool : Pool) (statement : Statement) : Except Failure Answer × Pool :=
  let (reply, server) := pool.server.receive statement
  match reply with
  | .rows rows => (.ok ⟨rows, rows.length⟩, { pool with server })
  | .affected count => (.ok ⟨[], count⟩, { pool with server })
  | .refused code message => (.error (.refused code message), { pool with server })
  | .broken => (.error .broken, { pool with server, line := .used true })

/-- Sends a statement of the unit that is open. A broken connection carries nothing. -/
def send (pool : Pool) (statement : Statement) : Except Failure Answer × Pool :=
  if pool.line = .used false then pool.transmit statement else (.error .broken, pool)

def release (pool : Pool) (unfinished : Bool) : Pool :=
  { pool with line := pool.line.released unfinished }

/-- Rolls back what was left open. However the database reacts, the next unit gets a good
connection. -/
def tidy (pool : Pool) : Pool :=
  if pool.line = .free true then { (pool.transmit .rollback).2 with line := .free false } else pool

/-- Takes the connection for a unit of work, and connects first if necessary. -/
def take (pool : Pool) : Except Failure Pool :=
  let pool := pool.tidy
  if pool.line = .down ∧ pool.requiresEncryption then .error .noEncryption
  else .ok { pool with line := .used false }

def openUnit (pool : Pool) : Except Failure Unit × Pool :=
  match pool.take with
  | .error failure => (.error failure, pool)
  | .ok pool =>
      match pool.transmit .start with
      | (.ok _, pool) => (.ok (), pool)
      | (.error failure, pool) => (.error failure, pool.release false)

/-- Ends the unit with a statement. If that fails the transaction is left open. -/
def finish (pool : Pool) (statement : Statement) : Except Failure Unit × Pool :=
  match pool.send statement with
  | (.ok _, pool) => (.ok (), pool.release false)
  | (.error failure, pool) => (.error failure, pool.release true)

/-- Closes the pool. The connection goes down as soon as no unit uses it. -/
def close (pool : Pool) : Pool :=
  let pool := pool.tidy
  if pool.isUsed then { pool with isClosed := true } else
    { pool with isClosed := true, line := .down }

end Pool

end Passbook.Database
