import Passbook.Account
import Passbook.Database.Failure
import Passbook.Decimal.Reading
import Passbook.Entry

/-!
Rows as the database returns them. A row is read column by column; only then is it held against the
rules of the ledger, which a database that others write to may break.
-/

set_option autoImplicit false

namespace Passbook.Database

/-- A value in a row. Numbers with a fraction come as text, times as microseconds since the start of
1970. -/
inductive Field
  | null
  | integer (value : Int)
  | text (value : String)
  deriving DecidableEq

namespace Field

def integer? : Field → Option Int
  | integer value => some value
  | _ => none

def text? : Field → Option String
  | text value => some value
  | _ => none

def number? (field : Field) : Option Decimal :=
  field.text?.bind fun text => Decimal.read text.toList

def time? (field : Field) : Option Time.Timestamp := field.integer?.bind Time.Timestamp.ofMicros?

def integerOrNull? : Field → Option (Option Int)
  | null => some none
  | integer value => some (some value)
  | text _ => none

end Field

abbrev Row := List Field

structure AccountRow where
  id : Int
  username : String
  passwordHash : String
  balance : Decimal
  deriving DecidableEq

namespace AccountRow

def ofRow? : Row → Option AccountRow
  | [id, username, passwordHash, balance] => do
      let id ← id.integer?
      let username ← username.text?
      let passwordHash ← passwordHash.text?
      let balance ← balance.number?
      return ⟨id, username, passwordHash, balance⟩
  | _ => none

/-- The account of a row. Every row is one. -/
def account (row : AccountRow) : Account :=
  ⟨⟨row.id⟩, row.username, row.passwordHash, .ofDecimal row.balance⟩

end AccountRow

structure EntryRow where
  id : Int
  account : Option Int
  amount : Decimal
  kind : String
  createdAt : Time.Timestamp
  deriving DecidableEq

namespace EntryRow

def ofRow? : Row → Option EntryRow
  | [id, account, amount, kind, createdAt] => do
      let id ← id.integer?
      let account ← account.integerOrNull?
      let amount ← amount.number?
      let kind ← kind.text?
      let createdAt ← createdAt.time?
      return ⟨id, account, amount, kind, createdAt⟩
  | _ => none

/-- The error of a row with a value that no entry has. -/
def invalid (row : EntryRow) (column : String) (refusal : LedgerError) : StoreError :=
  ⟨.backend, "invalid stored " ++ column ++ " for transaction " ++ toString row.id ++ ": " ++
    refusal.message⟩

/-- The entry of a row. The amount is judged before the direction. -/
def entry (row : EntryRow) : Except StoreError Entry := do
  let amount ← (Amount.ofDecimal row.amount).mapError (row.invalid "amount")
  let kind ← (EntryKind.read row.kind).mapError (row.invalid "type")
  return ⟨⟨row.id⟩, row.account.map AccountId.mk, amount, kind, row.createdAt⟩

end EntryRow

def readAccount (row : Row) : Except StoreError Account :=
  match AccountRow.ofRow? row with
  | some row => .ok row.account
  | none => .error (Failure.unreadable.error .readAccount)

def readEntry (row : Row) : Except StoreError Entry :=
  match EntryRow.ofRow? row with
  | some row => row.entry
  | none => .error (Failure.unreadable.error .readEntry)

end Passbook.Database
