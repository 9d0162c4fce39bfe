import Passbook.Decimal.Arithmetic
import Passbook.Error

/-!
Balances and amounts. A `Money` is a decimal in normal form, so equal balances are equal values. An
`Amount` is moreover positive, has at most four fractional digits and is not larger than the largest
balance that can be stored; the direction of a movement is never in its amount.
-/

set_option autoImplicit false

namespace Passbook

def moneyScale : Nat := 4

/-- The largest number with sixteen integer digits and four fractional ones. -/
def maxMoney : Decimal := ⟨false, 99999999999999999999, moneyScale, by decide, by decide⟩

/-- A balance, in normal form. -/
structure Money where
  value : Decimal
  normal : value.IsNormal
  deriving DecidableEq

namespace Money

def ofDecimal (value : Decimal) : Money := ⟨value.normalise, value.isNormal_normalise⟩

def zero : Money := ofDecimal .zero

instance : Inhabited Money := ⟨zero⟩

def isNegative (balance : Money) : Bool := balance.value.negative && !balance.value.isZero

/-- Text of a balance: no superfluous digits. -/
def render (balance : Money) : String := balance.value.render

end Money

/-- The size of one movement. -/
structure Amount where
  value : Decimal
  normal : value.IsNormal
  positive : value.atMost .zero = false
  fine : value.scale ≤ moneyScale
  bounded : value.atMost maxMoney = true
  deriving DecidableEq

namespace Amount

/-- The amount of a decimal. Of several reasons to refuse it the first in the order sign, precision,
size is given. -/
def ofDecimal (value : Decimal) : Except LedgerError Amount :=
  let normalised := value.normalise
  if positive : normalised.atMost .zero = false then
    if fine : normalised.scale ≤ moneyScale then
      if bounded : normalised.atMost maxMoney = true then
        .ok ⟨normalised, value.isNormal_normalise, positive, fine, bounded⟩
      else .error (.validation ("amount must not exceed " ++ maxMoney.render))
    else .error (.validation
      ("amount must have at most " ++ toString moneyScale ++ " decimal places"))
  else .error (.validation "amount must be greater than zero")

/-- Text of an amount: no superfluous digits. -/
def render (amount : Amount) : String := amount.value.render

end Amount

namespace Money

def covers (balance : Money) (amount : Amount) : Bool := amount.value.atMost balance.value

/-- The balance after adding an amount, unless that is more than can be stored. -/
def credit (balance : Money) (amount : Amount) : Except LedgerError Money :=
  match balance.value.add? amount.value with
  | some sum =>
      if sum.atMost maxMoney then .ok (ofDecimal sum)
      else .error (.limitExceeded balance.value amount.value)
  | none => .error (.limitExceeded balance.value amount.value)

/-- The balance after taking an amount away, unless it does not cover the amount. -/
def debit (balance : Money) (amount : Amount) : Except LedgerError Money :=
  if balance.covers amount then
    match balance.value.sub? amount.value with
    | some difference => .ok (ofDecimal difference)
    | none => .error (.invariantViolation "balance underflow")
  else .error (.insufficientFunds balance.value amount.value)

end Money

end Passbook
