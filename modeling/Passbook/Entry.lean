import Passbook.Id
import Passbook.Money
import Passbook.Time.Timestamp

/-!
Ledger entries. An entry is one recorded movement and never changes; a draft is an entry that has no
identifier and no time yet.
-/

set_option autoImplicit false

namespace Passbook

/-- The direction of a movement. -/
inductive EntryKind
  | credit
  | debit
  deriving DecidableEq

namespace EntryKind

def name : EntryKind → String
  | credit => "credit"
  | debit => "debit"

def read (text : String) : Except LedgerError EntryKind :=
  if text = "credit" then .ok .credit
  else if text = "debit" then .ok .debit
  else .error (.validation ("unknown transaction type '" ++ text ++ "'"))

end EntryKind

/-- A recorded movement. An entry without an account belongs to the system. -/
structure Entry where
  id : EntryId
  account : Option AccountId
  amount : Amount
  kind : EntryKind
  createdAt : Time.Timestamp
  deriving DecidableEq

/-- A movement about to be recorded. -/
structure EntryDraft where
  account : Option AccountId
  amount : Amount
  kind : EntryKind
  deriving DecidableEq

/-- Reads a movement. The name of its direction is judged before its amount. -/
def EntryDraft.make (account : Option AccountId) (kind : String) (amount : Decimal) :
    Except LedgerError EntryDraft := do
  let kind ← EntryKind.read kind
  let amount ← Amount.ofDecimal amount
  return ⟨account, amount, kind⟩

def EntryDraft.entry (draft : EntryDraft) (id : EntryId) (createdAt : Time.Timestamp) : Entry :=
  ⟨id, draft.account, draft.amount, draft.kind, createdAt⟩

def Entry.signed (entry : Entry) : Decimal :=
  match entry.kind with
  | .credit => entry.amount.value
  | .debit => entry.amount.value.negate

end Passbook
