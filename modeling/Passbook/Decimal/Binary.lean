import Passbook.Power
import Passbook.Rounding

/-!
Non-negative binary floating point numbers of double precision, as exact pairs: a significand of at
most fifty-three bits times a power of two. `Double.nearest?` rounds a quotient to the nearest such
number, half to even; `Double.shortest` gives the fewest decimal digits that round back to the
number.
-/

set_option autoImplicit false

namespace Passbook

/-- The number `significand * 2 ^ exponent`. -/
structure Double where
  significand : Nat
  exponent : Int
  deriving DecidableEq

namespace Double

def leastExponent : Int := -1074

def greatestExponent : Int := 971

def zero : Double := ⟨0, 0⟩

def isZero (value : Double) : Bool := value.significand == 0

def toRatio (value : Double) : Nat × Nat :=
  if 0 ≤ value.exponent then (value.significand * twoTo value.exponent.toNat, 1)
  else (value.significand, twoTo (-value.exponent).toNat)

/-- The number on the grid of `2 ^ exponent` nearest to a quotient. -/
def onGrid (numerator denominator : Nat) (exponent : Int) : Nat :=
  if 0 ≤ exponent then roundHalfEven numerator (denominator * twoTo exponent.toNat)
  else roundHalfEven (numerator * twoTo (-exponent).toNat) denominator

/-- The exponent of the grid for a quotient: fine enough for fifty-three bits, no finer than the
smallest positive number. -/
def gridExponent (numerator denominator : Nat) : Int :=
  let estimate : Int := (numerator.log2 : Int) - (denominator.log2 : Int) - 52
  let scaled :=
    if 0 ≤ estimate then decide (numerator < denominator * twoTo (estimate.toNat + 52))
    else decide (numerator * twoTo (-estimate).toNat < denominator * twoTo 52)
  max leastExponent (if scaled then estimate - 1 else estimate)

/-- The number nearest to a quotient, half to even; none when it is too large. -/
def nearest? (numerator denominator : Nat) : Option Double :=
  if numerator = 0 then some zero
  else
    let exponent := gridExponent numerator denominator
    let significand := onGrid numerator denominator exponent
    let rounded : Double :=
      if significand = twoTo 53 then ⟨twoTo 52, exponent + 1⟩ else ⟨significand, exponent⟩
    if rounded.exponent ≤ greatestExponent then some rounded else none

def ofNat? (value : Nat) : Option Double := nearest? value 1

/-- Product, rounded; none when it is too large. -/
def mul? (left right : Double) : Option Double :=
  let (leftNumerator, leftDenominator) := left.toRatio
  let (rightNumerator, rightDenominator) := right.toRatio
  nearest? (leftNumerator * rightNumerator) (leftDenominator * rightDenominator)

/-- Quotient, rounded; the divisor is not zero. -/
def div? (left right : Double) : Option Double :=
  let (leftNumerator, leftDenominator) := left.toRatio
  let (rightNumerator, rightDenominator) := right.toRatio
  nearest? (leftNumerator * rightDenominator) (leftDenominator * rightNumerator)

/-- Decimal digits and a power of ten: `digits * 10 ^ power`. -/
structure Digits where
  digits : Nat
  power : Int
  deriving DecidableEq

def Digits.toRatio (value : Digits) : Nat × Nat :=
  if 0 ≤ value.power then (value.digits * tenTo value.power.toNat, 1)
  else (value.digits, tenTo (-value.power).toNat)

def leadingPower (numerator denominator : Nat) : Int :=
  let estimate : Int := ((Nat.toDigits 10 numerator).length : Int) -
    ((Nat.toDigits 10 denominator).length : Int)
  let reached :=
    if 0 ≤ estimate then decide (denominator * tenTo estimate.toNat ≤ numerator)
    else decide (denominator ≤ numerator * tenTo (-estimate).toNat)
  if reached then estimate else estimate - 1

/-- Whether decimal digits round to the number. -/
def isReadBy (value : Double) (candidate : Digits) : Bool :=
  let (numerator, denominator) := candidate.toRatio
  nearest? numerator denominator == some value

/-- Distance of decimal digits from the number, as a multiple of a common positive unit. -/
def distance (value : Double) (candidate : Digits) : Nat :=
  let (numerator, denominator) := value.toRatio
  let (otherNumerator, otherDenominator) := candidate.toRatio
  (((numerator * otherDenominator : Nat) : Int) - (otherNumerator * denominator : Nat)).natAbs

/-- Which of two decimals is taken that are equally far from a number. -/
inductive Tie
  | upper
  | even
  deriving DecidableEq

/-- The neighbour of the number on the grid of `10 ^ power` that reads back, of two the nearer one.
-/
def neighbour? (tie : Tie) (value : Double) (power : Int) : Option Digits :=
  let (numerator, denominator) := value.toRatio
  let low :=
    if 0 ≤ power then numerator / (denominator * tenTo power.toNat)
    else numerator * tenTo (-power).toNat / denominator
  let below : Digits := ⟨low, power⟩
  let above : Digits := ⟨low + 1, power⟩
  match value.isReadBy below, value.isReadBy above with
  | false, false => none
  | true, false => some below
  | false, true => some above
  | true, true =>
      let toBelow := value.distance below
      let toAbove := value.distance above
      if toBelow < toAbove then some below
      else if toAbove < toBelow then some above
      else if tie = .even ∧ low % 2 = 0 then some below
      else some above

/-- Tries grids from `power` downwards; seventeen digits always read back. -/
def shortestFrom (tie : Tie) (value : Double) (power : Int) : Nat → Digits
  | 0 => (neighbour? tie value power).getD ⟨0, 0⟩
  | more + 1 =>
      match neighbour? tie value power with
      | some found => found
      | none => shortestFrom tie value (power - 1) more

def Digits.trimmed (value : Digits) : Nat → Digits
  | 0 => value
  | fuel + 1 =>
      if value.digits % 10 = 0 ∧ value.digits ≠ 0 then
        Digits.trimmed ⟨value.digits / 10, value.power + 1⟩ fuel
      else value

/-- The fewest decimal digits that round to the number, and of those the nearest to it. -/
def shortest (tie : Tie) (value : Double) : Digits :=
  if value.isZero then ⟨0, 0⟩
  else
    let (numerator, denominator) := value.toRatio
    (shortestFrom tie value (leadingPower numerator denominator) 17).trimmed 20

/-- Positional text without an exponent: `5000`, `0.0003`, `1.25`. -/
def Digits.plain (value : Digits) : List Char :=
  let digits := Nat.toDigits 10 value.digits
  if 0 ≤ value.power then
    if value.digits = 0 then ['0'] else digits ++ List.replicate value.power.toNat '0'
  else
    let places := (-value.power).toNat
    let padded := List.replicate (places + 1 - digits.length) '0' ++ digits
    padded.take (padded.length - places) ++ '.' :: padded.drop (padded.length - places)

/-- Text with a fraction or an exponent: positional from `0.00001` up to sixteen integer digits,
otherwise one leading digit and a signed exponent. -/
def Digits.marked (value : Digits) : List Char :=
  let digits := Nat.toDigits 10 value.digits
  let leading : Int := value.power + digits.length - 1
  if value.digits = 0 then ['0', '.', '0']
  else if -5 ≤ leading ∧ leading ≤ 15 then
    if 0 ≤ value.power then value.plain ++ ['.', '0'] else value.plain
  else
    let mantissa := if digits.length = 1 then digits else digits.take 1 ++ '.' :: digits.drop 1
    let sign := if leading < 0 then '-' else '+'
    mantissa ++ ['e', sign] ++ Nat.toDigits 10 leading.natAbs

end Double

end Passbook
