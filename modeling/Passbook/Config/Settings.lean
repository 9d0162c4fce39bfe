import Passbook.Power
import Passbook.Text.Integer

/-!
Settings are named texts. A setting that is absent has a default; one that is present must be
readable, even if it is empty.
-/

set_option autoImplicit false

namespace Passbook.Config

/-- Named texts. Of two with one name the first counts. -/
abbrev Settings := List (String × String)

def Settings.get? (settings : Settings) (name : String) : Option String := settings.lookup name

/-- The text of a setting, or its default. -/
def Settings.getOr (settings : Settings) (name default : String) : String :=
  (settings.get? name).getD default

/-- Why settings are not accepted. -/
inductive Problem
  /-- A setting breaks a requirement, for a reason. -/
  | unreadable (requirement reason : String)
  /-- The settings of the database are not accepted. -/
  | database (problem : Problem)
  deriving DecidableEq

/-- The problem in words, from the outermost message to the root. -/
def Problem.chain : Problem → List String
  | .unreadable requirement reason => [requirement, reason]
  | .database problem => "invalid database configuration" :: problem.chain

def Problem.message (problem : Problem) : String := problem.chain.headD ""

/-- Reads a natural number of at most `bits` bits. -/
def Settings.natural (settings : Settings) (name default requirement : String) (bits : Nat) :
    Except Problem Nat :=
  (Text.readNatural (twoTo bits - 1) (settings.getOr name default).toList).mapError fun fault =>
    .unreadable (name ++ " must be " ++ requirement) fault.message

def Settings.flag (settings : Settings) (name default : String) : Except Problem Bool :=
  let text := settings.getOr name default
  if text = "true" then .ok true
  else if text = "false" then .ok false
  else .error (.unreadable (name ++ " must be true or false")
    "provided string was not `true` or `false`")

end Passbook.Config
