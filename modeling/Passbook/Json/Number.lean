import Passbook.Decimal.Binary
import Passbook.Json.Source
import Passbook.Text.Integer

/-!
Numbers in documents. Integers that fit sixty-four bits stay integers. Every other number becomes a
double: the digits that fit sixty-four bits as a whole number, times or divided by a power of ten.
Both that whole number and the power are rounded to doubles first, so the result is not always the
nearest double to the written number.
-/

set_option autoImplicit false

namespace Passbook.Json

inductive Number
  /-- A whole number below `twoTo 64`. -/
  | natural (value : Nat)
  /-- The negative of a whole number from 1 to `2 ^ 63`. -/
  | negative (magnitude : Nat)
  | real (isNegative : Bool) (magnitude : Double)

/-- The parts of a number as written. -/
structure NumberText where
  isNegative : Bool
  whole : List Char
  fraction : List Char
  hasFraction : Bool
  power : Option Int

def isDigit : Option Char → Bool
  | some char => char.isDigit
  | none => false

def readDigits (source : Source) : List Char × Source :=
  ((source.takeWhile isDigit).filterMap id, source.dropWhile isDigit)

/-- Reads a fraction, if there is one. -/
def readFraction : Source → Except Fault (Bool × List Char × Source)
  | some '.' :: source =>
      let (digits, rest) := readDigits source
      if digits.isEmpty then .error .malformed else .ok (true, digits, rest)
  | source => .ok (false, [], source)

/-- Reads an exponent, if there is one. -/
def readPower : Source → Except Fault (Option Int × Source)
  | some mark :: source =>
      if mark = 'e' ∨ mark = 'E' then
        let (isNegative, source) := match source with
          | some '-' :: source => (true, source)
          | some '+' :: source => (false, source)
          | source => (false, source)
        let (digits, rest) := readDigits source
        if digits.isEmpty then .error .malformed
        else
          let magnitude : Int := Text.digitsValue digits
          .ok (some (if isNegative then -magnitude else magnitude), rest)
      else .ok (none, some mark :: source)
  | source => .ok (none, source)

/-- Reads the parts of a number, after a minus sign if there was one. -/
def readNumberText (isNegative : Bool) (source : Source) :
    Except Fault (NumberText × Source) := do
  let (whole, rest) := readDigits source
  match whole with
  | [] => throw .malformed
  | '0' :: _ :: _ => throw .malformed
  | _ =>
      let (hasFraction, fraction, rest) ← readFraction rest
      let (power, rest) ← readPower rest
      return (⟨isNegative, whole, fraction, hasFraction, power⟩, rest)

/-- Appends digits to a whole number as long as it stays below `twoTo 64`; gives the number of
digits left over. -/
def appendDigits (value : Nat) : List Char → Nat × Nat
  | [] => (value, 0)
  | digit :: rest =>
      let next := value * 10 + Text.digitValue digit
      if next < twoTo 64 then appendDigits next rest else (value, rest.length + 1)

/-- Divides by powers of ten, the largest first, until the exponent is used up or nothing is left.
-/
def divideBy (value : Double) (places : Nat) : (steps : Nat) → Option Double
  | 0 => some .zero
  | steps + 1 => do
      if places ≤ 308 then value.div? (← Double.ofNat? (tenTo places))
      else
        let smaller ← value.div? (← Double.ofNat? (tenTo 308))
        if smaller.isZero then some .zero else divideBy smaller (places - 308) steps

/-- A whole number times a power of ten, as a double; none when it is too large. -/
def scaled? (value : Nat) (power : Int) : Option Double := do
  let value ← Double.ofNat? value
  if value.isZero then some .zero
  else if power < 0 then divideBy value power.natAbs 4
  else if power ≤ 308 then value.mul? (← Double.ofNat? (tenTo power.toNat))
  else none

/-- The number that is written, none if it is too large. -/
def NumberText.value? (text : NumberText) : Option Number :=
  let (whole, leftOver) := appendDigits 0 text.whole
  if leftOver = 0 ∧ ¬ text.hasFraction ∧ text.power = none then
    if ¬ text.isNegative then some (.natural whole)
    else if whole ≠ 0 ∧ whole ≤ twoTo 63 then some (.negative whole)
    else (Double.ofNat? whole).map (.real true)
  else
    let (significand, unused) := appendDigits whole text.fraction
    let places : Int := ((text.fraction.length - unused : Nat) : Int)
    (scaled? significand (leftOver - places + text.power.getD 0)).map (.real text.isNegative)

/-- Reads a number, after a minus sign if there was one. -/
def readNumber (isNegative : Bool) (source : Source) : Except Fault (Number × Source) := do
  let (text, rest) ← readNumberText isNegative source
  match text.value? with
  | some number => return (number, rest)
  | none => throw .malformed

/-- How a double is called in a message. Of two texts that serve equally the one with an even last
digit is taken. -/
def realText (isNegative : Bool) (magnitude : Double) : String :=
  String.ofList ((if isNegative then ['-'] else []) ++ (magnitude.shortest .even).marked)

def Number.describe : Number → String
  | natural value => "integer `" ++ toString value ++ "`"
  | negative magnitude => "integer `-" ++ toString magnitude ++ "`"
  | real isNegative magnitude => "floating point `" ++ realText isNegative magnitude ++ "`"

end Passbook.Json
