import Passbook.Account
import Passbook.Entry

/-!
The statements that the store sends to its database. Values never stand in the text of a statement;
they are sent beside it, and the text refers to them by number.
-/

set_option autoImplicit false

namespace Passbook.Database

/-- A value that is sent beside a statement. -/
inductive Parameter
  | integer (value : Int)
  | text (value : String)
  | number (value : Decimal)
  | null
  deriving DecidableEq

inductive Statement
  | start
  | commit
  | rollback
  /-- Bounds the wait for rows, until the transaction ends. The bound is in milliseconds. -/
  | limitWait (timeout : Option Nat)
  | lock (account : AccountId)
  | find (account : AccountId)
  | findName (username : String)
  | insert (registration : Registration)
  | setBalance (account : AccountId) (balance : Money)
  | append (draft : EntryDraft)
  | list (account : AccountId)
  deriving DecidableEq

/-- The kinds of statements. -/
inductive StatementKind
  | start
  | commit
  | rollback
  | limitWait
  | lock
  | find
  | findName
  | insert
  | setBalance
  | append
  | list
  deriving DecidableEq

/-- The bound on waiting as the database reads it. Zero would lift the bound, so the least one is a
millisecond. -/
def waitText : (timeout : Option Nat) → String
  | some timeout => toString (max timeout 1) ++ "ms"
  | none => "0"

namespace Statement

def kind : Statement → StatementKind
  | start => .start
  | commit => .commit
  | rollback => .rollback
  | limitWait _ => .limitWait
  | lock _ => .lock
  | find _ => .find
  | findName _ => .findName
  | insert _ => .insert
  | setBalance _ _ => .setBalance
  | append _ => .append
  | list _ => .list

def accountColumns : String := "id, username, password_hash, balance"

def entryColumns : String := "id, account_id, amount, type::text AS type, created_at"

def text : Statement → String
  | start => "BEGIN"
  | commit => "COMMIT"
  | rollback => "ROLLBACK"
  | limitWait _ => "SELECT set_config('lock_timeout', $1, true)"
  | lock _ => "SELECT " ++ accountColumns ++ " FROM accounts WHERE id = $1 FOR UPDATE"
  | find _ => "SELECT " ++ accountColumns ++ " FROM accounts WHERE id = $1"
  | findName _ => "SELECT " ++ accountColumns ++ " FROM accounts WHERE username = $1"
  | insert _ =>
      "INSERT INTO accounts (username, password_hash) VALUES ($1, $2) RETURNING " ++ accountColumns
  | setBalance _ _ => "UPDATE accounts SET balance = $2, updated_at = NOW() WHERE id = $1"
  | append _ =>
      "INSERT INTO transactions (account_id, amount, type) VALUES ($1, $2, $3::transaction_type) RETURNING " ++ entryColumns
  | list _ =>
      "SELECT " ++ entryColumns ++ " FROM transactions WHERE account_id = $1 ORDER BY id ASC"

/-- The values that are sent beside a statement. Statements about whole transactions take no values
at all. -/
def parameters? : Statement → Option (List Parameter)
  | start => none
  | commit => none
  | rollback => none
  | limitWait timeout => some [.text (waitText timeout)]
  | lock account => some [.integer account.value]
  | find account => some [.integer account.value]
  | findName username => some [.text username]
  | insert registration => some [.text registration.username, .text registration.passwordHash]
  | setBalance account balance => some [.integer account.value, .number balance.value]
  | append draft =>
      let account := match draft.account with
        | some account => .integer account.value
        | none => .null
      some [account, .number draft.amount.value, .text draft.kind.name]
  | list account => some [.integer account.value]

end Statement

end Passbook.Database
