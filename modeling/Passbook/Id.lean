import Passbook.Error
import Passbook.Text.Blank
import Passbook.Text.Integer

/-!
Identifiers of accounts and of entries. A store hands them out; text that comes from a caller is
read with surrounding white space removed and must denote a positive integer of sixty-four bits.
-/

set_option autoImplicit false

namespace Passbook

structure AccountId where
  value : Int
  deriving DecidableEq

structure EntryId where
  value : Int
  deriving DecidableEq

/-- Reads a positive identifier; `name` is what the error message calls it. -/
def readId (name : String) (text : List Char) : Except LedgerError Int :=
  match Text.readInt64 (Text.trim text) with
  | .error fault => .error (.invalidId (name ++ ": " ++ fault.message))
  | .ok value =>
      if value ≤ 0 then
        .error (.invalidId (name ++ ": must be positive, got " ++ toString value))
      else .ok value

namespace AccountId

def read (text : List Char) : Except LedgerError AccountId := (readId "AccountId" text).map .mk

def render (id : AccountId) : String := toString id.value

end AccountId

namespace EntryId

def read (text : List Char) : Except LedgerError EntryId := (readId "TransactionId" text).map .mk

def render (id : EntryId) : String := toString id.value

end EntryId

end Passbook
