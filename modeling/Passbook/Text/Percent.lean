/-!
Percent escapes, which write a byte as a percent sign and two hexadecimal digits.
-/

set_option autoImplicit false

namespace Passbook.Text

def hexValue? (char : Char) : Option Nat :=
  if char.isDigit then some (char.toNat - '0'.toNat)
  else if 'a' ≤ char ∧ char ≤ 'f' then some (char.toNat - 'a'.toNat + 10)
  else if 'A' ≤ char ∧ char ≤ 'F' then some (char.toNat - 'A'.toNat + 10)
  else none

/-- The bytes that a text with escapes stands for. A percent sign that is not followed by two digits
stands for itself. -/
def percentDecoded : List Char → List UInt8
  | '%' :: high :: low :: rest =>
      match hexValue? high, hexValue? low with
      | some high, some low => UInt8.ofNat (high * 16 + low) :: percentDecoded rest
      | _, _ => String.utf8EncodeChar '%' ++ percentDecoded (high :: low :: rest)
  | char :: rest => String.utf8EncodeChar char ++ percentDecoded rest
  | [] => []

end Passbook.Text
