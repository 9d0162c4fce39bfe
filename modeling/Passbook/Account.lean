import Passbook.Id
import Passbook.Money
import Passbook.Text.Quoted

/-!
Accounts. A registration names the account and carries a password hash that this library neither
makes nor checks; every account opens with an empty balance.
-/

set_option autoImplicit false

namespace Passbook

/-- An account as stored. -/
structure Account where
  id : AccountId
  username : String
  passwordHash : String
  balance : Money
  deriving DecidableEq

/-- The longest user name, in characters. -/
def maxUsernameLength : Nat := 64

/-- A request to open an account, already checked. -/
structure Registration where
  username : String
  passwordHash : String
  trimmed : Text.trim username.toList = username.toList
  named : username.toList ≠ []
  short : username.toList.length ≤ maxUsernameLength
  hashed : passwordHash ≠ ""
  deriving DecidableEq

namespace Registration

/-- Checks a registration. The user name is trimmed first; of several reasons to refuse it the first
in the order empty name, long name, empty hash is given. -/
def make (username passwordHash : String) : Except LedgerError Registration :=
  let name := Text.trim username.toList
  if named : name ≠ [] then
    if short : name.length ≤ maxUsernameLength then
      if hashed : passwordHash ≠ "" then
        .ok {
          username := String.ofList name
          passwordHash
          trimmed := by rw [String.toList_ofList]; exact Text.trim_trim _
          named := by rw [String.toList_ofList]; exact named
          short := by rw [String.toList_ofList]; exact short
          hashed }
      else .error (.validation "password hash must not be empty")
    else
      .error (.validation
        ("username must be at most " ++ toString maxUsernameLength ++ " characters"))
  else .error (.validation "username must not be empty")

def account (registration : Registration) (id : AccountId) : Account :=
  ⟨id, registration.username, registration.passwordHash, .zero⟩

/-- The registration in words, without the password hash. -/
def describe (registration : Registration) : String :=
  "NewAccount \x7b username: " ++ Text.quote registration.username ++ ", .. \x7d"

end Registration

/-- The account in words, without the password hash. -/
def Account.describe (account : Account) : String :=
  "Account \x7b id: AccountId(" ++ account.id.render ++ "), username: " ++
    Text.quote account.username ++ ", password_hash: \"<redacted>\", balance: Money(" ++
    account.balance.render ++ ") \x7d"

end Passbook
