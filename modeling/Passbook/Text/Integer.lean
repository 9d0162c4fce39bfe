import Passbook.Power

/-!
Reading bounded integers: one optional sign, then ASCII digits only. Four faults are told apart, and
the first one met from the left is the one reported.
-/

set_option autoImplicit false

namespace Passbook.Text

/-- Why a text is no integer of the wanted range. -/
inductive IntegerFault
  | empty
  | invalidDigit
  | tooLarge
  | tooSmall
  deriving DecidableEq, Repr

def IntegerFault.message : IntegerFault → String
  | .empty => "cannot parse integer from empty string"
  | .invalidDigit => "invalid digit found in string"
  | .tooLarge => "number too large to fit in target type"
  | .tooSmall => "number too small to fit in target type"

def digitValue (digit : Char) : Nat := digit.toNat - '0'.toNat

/-- The number that ASCII digits denote, most significant first. -/
def digitsValue (digits : List Char) : Nat :=
  digits.foldl (fun value digit => value * 10 + digitValue digit) 0

/-- Extends `value` by digits as long as it stays within `bound`. -/
def readMagnitude (bound : Nat) (overflow : IntegerFault) :
    Nat → List Char → Except IntegerFault Nat
  | value, [] => .ok value
  | value, digit :: rest =>
      if digit.isDigit then
        let next := value * 10 + digitValue digit
        if next ≤ bound then readMagnitude bound overflow next rest else .error overflow
      else .error .invalidDigit

/-- Reads a magnitude of at least one digit. A sign that stands alone is an invalid digit. -/
def readDigits (bound : Nat) (overflow : IntegerFault) (digits : List Char) :
    Except IntegerFault Nat :=
  if digits.isEmpty then .error .invalidDigit else readMagnitude bound overflow 0 digits

/-- Reads a natural number up to `bound`; a leading plus sign is allowed, a minus sign is not. -/
def readNatural (bound : Nat) : List Char → Except IntegerFault Nat
  | [] => .error .empty
  | '+' :: digits => readDigits bound .tooLarge digits
  | digits => readDigits bound .tooLarge digits

/-- Reads an integer from `-least` to `greatest`, with an optional sign. -/
def readInteger (least greatest : Nat) : List Char → Except IntegerFault Int
  | [] => .error .empty
  | '+' :: digits => (readDigits greatest .tooLarge digits).map Int.ofNat
  | '-' :: digits => (readDigits least .tooSmall digits).map fun magnitude => -(magnitude : Int)
  | digits => (readDigits greatest .tooLarge digits).map Int.ofNat

def readInt64 (text : List Char) : Except IntegerFault Int :=
  readInteger (twoTo 63) (twoTo 63 - 1) text

end Passbook.Text
