import Passbook.Decimal.Basic
import Passbook.Rounding

/-!
Sums and differences of decimals. The exact result is taken on the finer of the two grids; if its
mantissa does not fit, the fewest fractional digits that let it fit are given up, rounding once,
half to even. A result that does not fit as an integer does not exist.
-/

set_option autoImplicit false

namespace Passbook.Decimal

/-- Gives up `dropped`, then more, fractional digits of `mantissa / 10 ^ (dropped + scale)` until
the rounded mantissa fits. -/
def fitFrom (negative : Bool) (mantissa dropped : Nat) : Nat → Option Decimal
  | 0 => ofParts? negative (roundHalfEven mantissa (tenTo dropped)) 0
  | scale + 1 =>
      match ofParts? negative (roundHalfEven mantissa (tenTo dropped)) (scale + 1) with
      | some fitting => some fitting
      | none => fitFrom negative mantissa (dropped + 1) scale

/-- The decimal nearest to `coefficient / 10 ^ scale` that keeps as many fractional digits as fit.
-/
def fit? (coefficient : Int) (scale : Nat) : Option Decimal :=
  fitFrom (decide (coefficient < 0)) coefficient.natAbs 0 scale

/-- Sum, or none when its integer part is too large. -/
def add? (left right : Decimal) : Option Decimal :=
  let scale := max left.scale right.scale
  fit? (left.unitsAt scale + right.unitsAt scale) scale

/-- Difference, or none when its integer part is too large. -/
def sub? (left right : Decimal) : Option Decimal := left.add? right.negate

end Passbook.Decimal
