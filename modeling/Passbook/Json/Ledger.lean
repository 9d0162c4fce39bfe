import Passbook.Json.Record
import Passbook.Json.Writer
import Passbook.Decimal.Reading
import Passbook.Posting
import Passbook.Time.Text

/-!
The documents of the ledger: decimals, identifiers, accounts, entries and statements. Decimals are
written as strings and read from strings or numbers. A password hash is read and never written.
-/

set_option autoImplicit false

namespace Passbook

open Json

namespace Decimal

/-- The decimal that a number in a document denotes. A double is taken by its shortest positional
text, the upper one if two serve equally. -/
def ofNumber? : Number → Option Decimal
  | .natural value => ofParts? false value 0
  | .negative magnitude => ofParts? true magnitude 0
  | .real isNegative magnitude =>
      readPlain ((if isNegative then ['-'] else []) ++ (magnitude.shortest .upper).plain)

def readJson : Reader Decimal := fun source => do
  let expected := "a Decimal type representing a fixed-point number"
  let (head, rest) ← readHead source
  match head with
  | .text content =>
      match read content with
      | some value => return (value, rest)
      | none => throw (head.unacceptable expected)
  | .number number =>
      match ofNumber? number with
      | some value => return (value, rest)
      | none => throw (head.unacceptable expected)
  | head => throw (head.unexpected expected)

def writeJson (value : Decimal) : List Char := writeChars value.toChars

end Decimal

def Money.readJson : Reader Money := fun source => do
  let (value, rest) ← Decimal.readJson source
  return (.ofDecimal value, rest)

def Amount.readJson : Reader Amount := fun source => do
  let (value, rest) ← Decimal.readJson source
  match Amount.ofDecimal value with
  | .ok amount => return (amount, rest)
  | .error refusal => throw (.because refusal.message)

/-- Reads the identifier of an account, of any sign. -/
def AccountId.readJson : Reader AccountId := fun source =>
  (readInt64 source).map fun (value, rest) => (⟨value⟩, rest)

/-- Reads the identifier of an entry, of any sign. -/
def EntryId.readJson : Reader EntryId := fun source =>
  (readInt64 source).map fun (value, rest) => (⟨value⟩, rest)

namespace EntryKind

def ofName (name : List Char) : Except Fault EntryKind :=
  if name = ['c', 'r', 'e', 'd', 'i', 't'] then .ok .credit
  else if name = ['d', 'e', 'b', 'i', 't'] then .ok .debit
  else .error (.because
    ("unknown variant `" ++ String.ofList name ++ "`, expected `credit` or `debit`"))

/-- Reads a direction: its name, or a record that holds only the name with `null`. Any other value
is malformed. -/
def readJson : Reader EntryKind := fun source =>
  match readHead source with
  | .ok (.text name, rest) => (ofName name).map fun kind => (kind, rest)
  | .ok (.object, rest) => do
      let (head, rest) ← readHead rest
      let .text name := head | throw .malformed
      let kind ← ofName name
      let rest ← expect ':' rest
      let (head, rest) ← readHead rest
      let .null := head | throw (head.unexpected "unit")
      return (kind, ← expect '}' rest)
  | _ => .error .malformed

def writeJson (kind : EntryKind) : List Char := writeText kind.name

end EntryKind

def Time.Timestamp.readJson : Reader Time.Timestamp := fun source => do
  let (head, rest) ← readHead source
  match head with
  | .text content =>
      match Time.Timestamp.read content with
      | .ok time => return (time, rest)
      | .error fault => throw (.because fault.message)
  | head => throw (head.unexpected "an RFC 3339 formatted date and time string")

namespace Account

structure Fields where
  id : Option AccountId
  username : Option String
  passwordHash : Option String
  balance : Option Money

def shape : Shape Fields Account where
  name := "Account"
  fields := [
    ⟨"id", (·.id.isSome), fun fields source =>
      (AccountId.readJson source).map fun (id, rest) => ({ fields with id }, rest)⟩,
    ⟨"username", (·.username.isSome), fun fields source =>
      (readText source).map fun (username, rest) => ({ fields with username }, rest)⟩,
    ⟨"password_hash", (·.passwordHash.isSome), fun fields source =>
      (readText source).map fun (passwordHash, rest) => ({ fields with passwordHash }, rest)⟩,
    ⟨"balance", (·.balance.isSome), fun fields source =>
      (Money.readJson source).map fun (balance, rest) => ({ fields with balance }, rest)⟩]
  start := ⟨none, none, none, none⟩
  finish fields := do
    return ⟨← required "id" fields.id, ← required "username" fields.username,
      ← required "password_hash" fields.passwordHash, ← required "balance" fields.balance⟩

/-- Reads an account. Its names are taken as they are. -/
def readJson : Reader Account := shape.read

/-- Writes an account, without its password hash. -/
def writeJson (account : Account) : List Char :=
  writeObject [("id", writeInt account.id.value), ("username", writeText account.username),
    ("balance", account.balance.value.writeJson)]

end Account

namespace Entry

structure Fields where
  id : Option EntryId
  account : Option (Option AccountId)
  amount : Option Amount
  kind : Option EntryKind
  createdAt : Option Time.Timestamp

/-- The document of an entry. The account may be absent. -/
def shape : Shape Fields Entry where
  name := "LedgerEntry"
  fields := [
    ⟨"id", (·.id.isSome), fun fields source =>
      (EntryId.readJson source).map fun (id, rest) => ({ fields with id }, rest)⟩,
    ⟨"account_id", (·.account.isSome), fun fields source =>
      (readOption AccountId.readJson source).map fun (account, rest) =>
        ({ fields with account := some account }, rest)⟩,
    ⟨"amount", (·.amount.isSome), fun fields source =>
      (Amount.readJson source).map fun (amount, rest) => ({ fields with amount }, rest)⟩,
    ⟨"type", (·.kind.isSome), fun fields source =>
      (EntryKind.readJson source).map fun (kind, rest) => ({ fields with kind }, rest)⟩,
    ⟨"created_at", (·.createdAt.isSome), fun fields source =>
      (Time.Timestamp.readJson source).map fun (createdAt, rest) =>
        ({ fields with createdAt }, rest)⟩]
  start := ⟨none, none, none, none, none⟩
  finish fields := do
    return ⟨← required "id" fields.id, fields.account.getD none, ← required "amount" fields.amount,
      ← required "type" fields.kind, ← required "created_at" fields.createdAt⟩

def readJson : Reader Entry := shape.read

def writeJson (entry : Entry) : List Char :=
  writeObject [("id", writeInt entry.id.value),
    ("account_id", match entry.account with
      | some account => writeInt account.value
      | none => ['n', 'u', 'l', 'l']),
    ("amount", entry.amount.value.writeJson), ("type", entry.kind.writeJson),
    ("created_at", writeChars entry.createdAt.toChars)]

end Entry

def Statement.writeJson (statement : Statement) : List Char :=
  writeObject [("account", statement.account.writeJson),
    ("entries", writeArray (statement.entries.map Entry.writeJson))]

end Passbook
