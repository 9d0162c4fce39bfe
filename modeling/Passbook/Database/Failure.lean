import Passbook.Store.Error

/-!
How work on a database fails, and what that means to the ledger. The meaning depends on the failure
alone; the message also names the operation.
-/

set_option autoImplicit false

namespace Passbook.Database

/-- What the store was about to do. -/
inductive Operation
  | connect
  | start
  | limitWait
  | lock
  | find
  | findName
  | insert
  | setBalance
  | append
  | list
  | commit
  | rollback
  | readAccount
  | readEntry
  deriving DecidableEq

def Operation.name : Operation → String
  | connect => "connect"
  | start => "begin_transaction"
  | limitWait => "set_lock_timeout"
  | lock => "lock_account_for_update"
  | find => "find_account"
  | findName => "find_account_by_username"
  | insert => "insert_account"
  | setBalance => "set_balance"
  | append => "append_transaction"
  | list => "list_transactions"
  | commit => "commit_transaction"
  | rollback => "rollback"
  | readAccount => "decode_account"
  | readEntry => "decode_transaction"

/-- A failure. -/
inductive Failure
  /-- The database refuses a statement, with a code of five characters. -/
  | refused (code message : String)
  /-- The connection is broken. -/
  | broken
  /-- The database does not encrypt. -/
  | noEncryption
  /-- No connection has become free in time. -/
  | noConnection
  /-- No connections are given out any more. -/
  | closed
  /-- There is no row where there must be one. -/
  | noRow
  /-- An address or a row does not have the expected form. -/
  | unreadable
  deriving DecidableEq

/-- What a refusal by the database means. Codes that begin with 08 are about the connection. -/
def faultOfCode (code : String) : StoreFault :=
  if code = "23505" then .conflict
  else if code = "23503" ∨ code = "23514" ∨ code = "22003" then .constraint
  else if code = "55P03" ∨ code = "57014" then .lockTimeout
  else if ['0', '8'].isPrefixOf code.toList then .unavailable
  else .backend

namespace Failure

def fault : Failure → StoreFault
  | refused code _ => faultOfCode code
  | broken => .unavailable
  | noEncryption => .unavailable
  | noConnection => .unavailable
  | closed => .unavailable
  | noRow => .missingRow
  | unreadable => .backend

def detail (failure : Failure) (operation : Operation) : String :=
  match failure with
  | refused _ message => "database error in " ++ operation.name ++ ": " ++ message
  | broken => "io error in " ++ operation.name
  | noEncryption => "tls error in " ++ operation.name
  | noConnection => "timed out acquiring a connection in " ++ operation.name
  | closed => "connection pool closed in " ++ operation.name
  | noRow => "unexpected row not found in " ++ operation.name
  | unreadable => "sqlx error in " ++ operation.name

def error (failure : Failure) (operation : Operation) : StoreError :=
  ⟨failure.fault, failure.detail operation⟩

end Failure

end Passbook.Database
