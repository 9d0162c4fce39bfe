/-!
Why a document cannot be read as a value of the wanted type. A document that is not JSON is
malformed, whatever else is wrong with it later; a document that is JSON but not of the type is
unfit, for a stated reason and possibly inside a named field.
-/

set_option autoImplicit false

namespace Passbook.Json

/-- Why reading stopped. -/
inductive Fault
  | malformed
  | unfit (field : Option String) (reason : String)
  deriving DecidableEq

namespace Fault

def because (reason : String) : Fault := unfit none reason

/-- The same fault, seen from the record that holds the value. -/
def inside (field : String) : Fault → Fault
  | malformed => malformed
  | unfit none reason => unfit (some field) reason
  | unfit (some inner) reason => unfit (some (field ++ "." ++ inner)) reason

end Fault

end Passbook.Json
