import Passbook.Decimal.Arithmetic
import Passbook.Text.Integer

/-!
Reading decimals from text. The plain form has an optional sign, digits, at most one point, and
underscores anywhere after the first digit. Digits that no longer fit, either because the
twenty-eighth fractional digit has been taken or because the mantissa is full, are given up: the
first of them rounds half up. Integer digits are never given up. A text that is not plain may still
be a plain one with an exponent.
-/

set_option autoImplicit false

namespace Passbook.Decimal

open Text (digitValue readNatural)

/-- Closes a reading whose next digit no longer fits. The remaining text may hold only digits and
underscores, and does not change the result. -/
def roundLast (negative : Bool) (mantissa scale digit : Nat) (rest : List Char) : Option Decimal :=
  if rest.all fun char => char.isDigit || char == '_' then
    if digit < 5 then ofParts? negative mantissa scale
    else
      match ofParts? negative (mantissa + 1) scale, scale with
      | some rounded, _ => some rounded
      | none, 0 => none
      | none, fewer + 1 => ofParts? negative ((mantissa + 5) / 10) fewer
  else none

/-- A mantissa that was as large as this before its last digit counts as wide. -/
def wideMantissa : Nat := 1844674407370954906

/-- Reads digits, point and underscores after the sign. An underscore after the last possible
fractional digit is skipped if the mantissa is wide; otherwise it stands for the digit zero. `seen`
says whether a digit came before. -/
def readUnsigned (negative : Bool) :
    (mantissa scale : Nat) → (point seen : Bool) → List Char → Option Decimal
  | mantissa, scale, _, seen, [] => if seen then ofParts? negative mantissa scale else none
  | mantissa, scale, point, seen, char :: rest =>
      if point && scale == maxScale then
        if char.isDigit then roundLast negative mantissa scale (digitValue char) rest
        else if char == '_' then
          if wideMantissa ≤ mantissa / 10 then readUnsigned negative mantissa scale point seen rest
          else roundLast negative mantissa scale 0 rest
        else none
      else if char.isDigit then
        let next := mantissa * 10 + digitValue char
        if next < mantissaBound then
          readUnsigned negative next (if point then scale + 1 else scale) point true rest
        else if point then roundLast negative mantissa scale (digitValue char) rest
        else none
      else if char == '.' && !point then readUnsigned negative mantissa scale true seen rest
      else if char == '_' && seen then readUnsigned negative mantissa scale point seen rest
      else none

def readPlain : List Char → Option Decimal
  | '-' :: rest => readUnsigned true 0 0 false false rest
  | '+' :: rest => readUnsigned false 0 0 false false rest
  | text => readUnsigned false 0 0 false false text

/-- A mantissa without its last `excess` digits, rounding half up. -/
def shortened (mantissa : Nat) : (excess : Nat) → Nat
  | 0 => mantissa
  | excess + 1 => (mantissa + 5 * tenTo excess) / tenTo (excess + 1)

theorem shortened_lt {mantissa : Nat} (small : mantissa < mantissaBound) (excess : Nat) :
    shortened mantissa excess < mantissaBound := by
  cases excess with
  | zero => exact small
  | succ excess =>
      have unit : 0 < tenTo excess := tenTo_pos excess
      have bound : mantissaBound = 79228162514264337593543950336 := rfl
      apply Nat.div_lt_of_lt_mul
      rw [tenTo_succ, bound]
      rw [bound] at small
      omega

/-- The number divided by `10 ^ places`, on a finer grid. Fractional digits beyond the last possible
one are given up, rounding half up; a zero keeps its sign. -/
def lowered (value : Decimal) (places : Nat) : Decimal where
  negative := value.negative
  mantissa := shortened value.mantissa (value.scale + places - maxScale)
  scale := min (value.scale + places) maxScale
  mantissa_lt := shortened_lt value.mantissa_lt _
  scale_le := Nat.min_le_right _ _

/-- The number multiplied by `10 ^ places`. Fractional digits are used up first. -/
def raised? (value : Decimal) (places : Nat) : Option Decimal :=
  if places ≤ value.scale then ofParts? value.negative value.mantissa (value.scale - places)
  else ofParts? value.negative (value.mantissa * tenTo (places - value.scale)) 0

/-- Reads a plain form, `e` or `E`, and a power of ten of at most twenty-eight. -/
def readScientific (text : List Char) : Option Decimal := do
  let isMark := fun char => char == 'e' || char == 'E'
  let base := text.takeWhile fun char => !isMark char
  match text.dropWhile fun char => !isMark char with
  | [] => none
  | _ :: '-' :: places =>
      let value ← readPlain base
      let places ← (readNatural (twoTo 32 - 1) places).toOption
      if places ≤ maxScale then return value.lowered places else none
  | _ :: places =>
      let value ← readPlain base
      let places ← (readNatural (twoTo 32 - 1) places).toOption
      if places ≤ maxScale then value.raised? places else none

def read (text : List Char) : Option Decimal := readPlain text <|> readScientific text

end Passbook.Decimal
