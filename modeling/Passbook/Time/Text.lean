import Passbook.Text.Blank
import Passbook.Text.Integer
import Passbook.Time.Timestamp

/-!
Timestamps as text: date, `T`, time of day, the fewest fractional digits that are exact (0, 3, 6 or
9), and `Z`. A leap second is written as second 60. Reading is more tolerant: a space or `t` may
divide date and time, white space may stand between the parts, fractions may have any number of
digits, and any offset from UTC may be given.
-/

set_option autoImplicit false

namespace Passbook.Time

open Text (digitValue digitsValue trimStart)

/-- Digits of a number, filled up with zeros on the left. -/
def paddedTo (width number : Nat) : List Char :=
  let digits := Nat.toDigits 10 number
  List.replicate (width - digits.length) '0' ++ digits

/-- Text of a year: four digits, or a sign and at least four digits for a year outside 0 to 9999. -/
def yearText (year : Int) : List Char :=
  if 0 ≤ year ∧ year ≤ 9999 then paddedTo 4 year.toNat
  else (if year < 0 then '-' else '+') :: paddedTo 4 year.natAbs

def fractionText (nanos : Nat) : List Char :=
  if nanos = 0 then []
  else if nanos % 1000000 = 0 then '.' :: paddedTo 3 (nanos / 1000000)
  else if nanos % 1000 = 0 then '.' :: paddedTo 6 (nanos / 1000)
  else '.' :: paddedTo 9 nanos

namespace Timestamp

def toChars (time : Timestamp) : List Char :=
  let date := time.date
  let second := time.secondOfDay
  let leap := if nanosPerSecond ≤ time.nanos then 1 else 0
  yearText date.year ++ '-' :: paddedTo 2 date.month ++ '-' :: paddedTo 2 date.day ++
    'T' :: paddedTo 2 (second / 3600) ++ ':' :: paddedTo 2 (second / 60 % 60) ++
    ':' :: paddedTo 2 (second % 60 + leap) ++
    fractionText (time.nanos - leap * nanosPerSecond) ++ ['Z']

def render (time : Timestamp) : String := String.ofList time.toChars

end Timestamp

/-- Why a text is no timestamp. -/
inductive TextFault
  | outOfRange
  | impossible
  | invalid
  | tooShort
  | tooLong
  deriving DecidableEq

def TextFault.message : TextFault → String
  | .outOfRange => "input is out of range"
  | .impossible => "no possible date and time matching input"
  | .invalid => "input contains invalid characters"
  | .tooShort => "premature end of input"
  | .tooLong => "trailing input"

/-- Reads at least one and at most `width` digits; without a width, all that follow. -/
def readNumber (width : Option Nat) (text : List Char) :
    Except TextFault (Nat × List Char) :=
  let digits := (match width with
    | some width => text.take width
    | none => text).takeWhile Char.isDigit
  match text, digits with
  | [], _ => .error .tooShort
  | _, [] => .error .invalid
  | _, _ => .ok (digitsValue digits, text.drop digits.length)

def readField (least greatest : Nat) (text : List Char) : Except TextFault (Nat × List Char) := do
  let (value, rest) ← readNumber (some 2) (trimStart text)
  if least ≤ value ∧ value ≤ greatest then .ok (value, rest) else .error .outOfRange

/-- Reads a year: four digits or fewer, or a sign and any number of digits. -/
def readYear (text : List Char) : Except TextFault (Int × List Char) := do
  let (year, rest) ← (match trimStart text with
    | '-' :: digits => (readNumber none digits).map fun (value, rest) => (-(value : Int), rest)
    | '+' :: digits => (readNumber none digits).map fun (value, rest) => ((value : Int), rest)
    | digits => (readNumber (some 4) digits).map fun (value, rest) => ((value : Int), rest))
  if -(twoTo 31 : Int) ≤ year ∧ year < twoTo 31 then .ok (year, rest) else .error .outOfRange

def readMark (mark : Char) (text : List Char) : Except TextFault (List Char) :=
  match trimStart text with
  | [] => .error .tooShort
  | char :: rest => if char = mark then .ok rest else .error .invalid

/-- Reads a fraction of a second, if there is one; digits after the ninth are skipped. -/
def readFraction : List Char → Except TextFault (Nat × List Char)
  | '.' :: text =>
      let digits := (text.take 9).takeWhile Char.isDigit
      match text, digits with
      | [], _ => .error .tooShort
      | _, [] => .error .invalid
      | _, _ =>
          .ok (digitsValue digits * tenTo (9 - digits.length),
            (text.drop digits.length).dropWhile Char.isDigit)
  | text => .ok (0, text)

def readPair : List Char → Except TextFault (Char × Char × List Char)
  | first :: second :: rest => .ok (first, second, rest)
  | [single] => if single.utf8Size < 2 then .error .tooShort else .error .invalid
  | [] => .error .tooShort

/-- Reads hours and minutes of an offset, in seconds. -/
def readOffsetSize (text : List Char) : Except TextFault (Int × List Char) := do
  let (tens, ones, rest) ← readPair text
  if !(tens.isDigit && ones.isDigit) then throw .invalid
  let hours := digitValue tens * 10 + digitValue ones
  let (tens, ones, rest) ← readPair (rest.dropWhile fun char => char == ':' || Text.isBlank char)
  if !(tens.isDigit && ones.isDigit) then throw .invalid
  if 6 ≤ digitValue tens then throw .outOfRange
  return ((hours * 3600 + (digitValue tens * 10 + digitValue ones) * 60 : Nat), rest)

/-- Reads an offset from UTC in seconds: `Z`, `UTC`, or a sign with hours and minutes. -/
def readOffset : List Char → Except TextFault (Int × List Char)
  | [] => .error .tooShort
  | first :: rest =>
      if first = 'Z' ∨ first = 'z' then .ok (0, rest)
      else if (first :: rest.take 2).map Char.toUpper = ['U', 'T', 'C'] then .ok (0, rest.drop 2)
      else if first = '+' then readOffsetSize rest
      else if first = '-' ∨ first = '−' then
        (readOffsetSize rest).map fun (size, rest) => (-size, rest)
      else .error .invalid

def Timestamp.read (text : List Char) : Except TextFault Timestamp := do
  let (year, rest) ← readYear text
  let rest ← readMark '-' rest
  let (month, rest) ← readField 1 12 rest
  let rest ← readMark '-' rest
  let (day, rest) ← readField 1 31 rest
  let rest ← (match rest with
    | [] => .error .tooShort
    | char :: rest =>
        if char = 'T' ∨ char = 't' ∨ char = ' ' then .ok rest else .error .invalid)
  let (hour, rest) ← readField 0 23 rest
  let rest ← readMark ':' rest
  let (minute, rest) ← readField 0 59 rest
  let rest ← readMark ':' rest
  let (second, rest) ← readField 0 60 rest
  let (fraction, rest) ← readFraction rest
  let (offset, rest) ← readOffset (trimStart rest)
  if trimStart rest ≠ [] then throw .tooLong
  let date : Date := ⟨year, month, day⟩
  if !date.isValid || year < firstYear || lastYear < year then throw .outOfRange
  if 86400 ≤ offset.natAbs then throw .outOfRange
  let leap := if second = 60 then 1 else 0
  let seconds := date.toDayNumber * secondsPerDay + hour * 3600 + minute * 60 +
    ((second - leap : Nat) : Int) - offset
  match Timestamp.make? seconds (fraction + leap * nanosPerSecond) with
  | some time => return time
  | none => throw .impossible

end Passbook.Time
