import Passbook.Decimal.Basic

/-!
Decimals as text: an optional minus sign, the integer digits, and, when there are fractional digits,
a point and exactly `scale` of them.
-/

set_option autoImplicit false

namespace Passbook.Decimal

/-- The digits of a mantissa, at least one more than there are fractional digits. -/
def paddedDigits (mantissa scale : Nat) : List Char :=
  let digits := Nat.toDigits 10 mantissa
  List.replicate (scale + 1 - digits.length) '0' ++ digits

/-- Text of a decimal, with its own number of fractional digits. -/
def toChars (value : Decimal) : List Char :=
  let digits := paddedDigits value.mantissa value.scale
  let wholeLength := digits.length - value.scale
  (if value.negative then ['-'] else []) ++ digits.take wholeLength ++
    (if value.scale = 0 then [] else '.' :: digits.drop wholeLength)

/-- Text of a decimal, with its own number of fractional digits. -/
def render (value : Decimal) : String := String.ofList value.toChars

end Passbook.Decimal
