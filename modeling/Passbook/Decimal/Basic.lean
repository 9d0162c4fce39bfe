import Passbook.Power

/-!
Signed decimals of limited precision: a coefficient of at most ninety-six bits over a power of
ten of at most twenty-eight. Two decimals of different scales can denote the same number, so
equality of values is `Decimal.compare`; `Decimal.normalise` picks one representative of each value.
-/

set_option autoImplicit false

namespace Passbook

/-- The number of values that the mantissa of a decimal can take. -/
def mantissaBound : Nat := twoTo 96

/-- A decimal `± mantissa / 10 ^ scale`. The sign of a zero is kept until normalisation. -/
structure Decimal where
  negative : Bool
  mantissa : Nat
  scale : Nat
  mantissa_lt : mantissa < mantissaBound
  scale_le : scale ≤ 28
  deriving DecidableEq

namespace Decimal

def maxScale : Nat := 28

/-- Zero, without fractional digits. -/
def zero : Decimal := ⟨false, 0, 0, by decide, by decide⟩

instance : Inhabited Decimal := ⟨zero⟩

/-- A decimal from its parts, if the parts are within bounds. A zero built this way has no sign. -/
def ofParts? (negative : Bool) (mantissa scale : Nat) : Option Decimal :=
  if bounds : mantissa < mantissaBound ∧ scale ≤ 28 then
    some ⟨negative && mantissa != 0, mantissa, scale, bounds.1, bounds.2⟩
  else none

def coefficient (value : Decimal) : Int :=
  if value.negative then -(value.mantissa : Int) else value.mantissa

/-- Whether the number is zero, at any scale and with either sign. -/
def isZero (value : Decimal) : Bool := value.mantissa == 0

def negate (value : Decimal) : Decimal := { value with negative := !value.negative }

/-- The coefficient on a grid of `10 ^ -scale`, exact whenever the grid is fine enough. -/
def unitsAt (value : Decimal) (scale : Nat) : Int :=
  value.coefficient * tenTo (scale - value.scale)

/-- Order of the denoted numbers. Nothing is rounded. -/
def compare (left right : Decimal) : Ordering :=
  let scale := max left.scale right.scale
  Ord.compare (left.unitsAt scale) (right.unitsAt scale)

def atMost (left right : Decimal) : Bool := left.compare right != .gt

def below (left right : Decimal) : Bool := left.compare right == .lt

/-- Removes final zeros of a fraction with `scale` digits; what remains is the shortest mantissa and
scale for the same quotient. -/
def stripZeros (mantissa : Nat) : Nat → Nat × Nat
  | 0 => (mantissa, 0)
  | scale + 1 => if mantissa % 10 = 0 then stripZeros (mantissa / 10) scale else
      (mantissa, scale + 1)

theorem stripZeros_mantissa_le (mantissa scale : Nat) :
    (stripZeros mantissa scale).1 ≤ mantissa := by
  induction scale generalizing mantissa with
  | zero => exact Nat.le_refl _
  | succ scale ih =>
      simp only [stripZeros]
      split
      · exact Nat.le_trans (ih _) (Nat.div_le_self _ _)
      · exact Nat.le_refl _

theorem stripZeros_scale_le (mantissa scale : Nat) : (stripZeros mantissa scale).2 ≤ scale := by
  induction scale generalizing mantissa with
  | zero => exact Nat.le_refl _
  | succ scale ih =>
      simp only [stripZeros]
      split
      · exact Nat.le_succ_of_le (ih _)
      · exact Nat.le_refl _

/-- The same number with the fewest fractional digits; a zero loses its sign. -/
def normalise (value : Decimal) : Decimal where
  negative := value.negative && value.mantissa != 0
  mantissa := (stripZeros value.mantissa value.scale).1
  scale := (stripZeros value.mantissa value.scale).2
  mantissa_lt := Nat.lt_of_le_of_lt (stripZeros_mantissa_le _ _) value.mantissa_lt
  scale_le := Nat.le_trans (stripZeros_scale_le _ _) value.scale_le

def IsNormal (value : Decimal) : Prop := value.normalise = value

instance (value : Decimal) : Decidable value.IsNormal :=
  inferInstanceAs (Decidable (value.normalise = value))

theorem stripZeros_stripped (mantissa scale : Nat) :
    stripZeros (stripZeros mantissa scale).1 (stripZeros mantissa scale).2 =
      stripZeros mantissa scale := by
  induction scale generalizing mantissa with
  | zero => rfl
  | succ scale ih =>
      by_cases final : mantissa % 10 = 0
      · have once : stripZeros mantissa (scale + 1) = stripZeros (mantissa / 10) scale := by
          simp only [stripZeros, final, if_true]
        rw [once]
        exact ih (mantissa / 10)
      · have once : stripZeros mantissa (scale + 1) = (mantissa, scale + 1) := by
          simp only [stripZeros, final, if_false]
        rw [once]
        exact once

theorem stripZeros_eq_zero_iff (mantissa scale : Nat) :
    (stripZeros mantissa scale).1 = 0 ↔ mantissa = 0 := by
  induction scale generalizing mantissa with
  | zero => exact Iff.rfl
  | succ scale ih =>
      simp only [stripZeros]
      split
      · rename_i final
        rw [ih]
        omega
      · exact Iff.rfl

theorem isNormal_normalise (value : Decimal) : value.normalise.IsNormal := by
  have sign : ((stripZeros value.mantissa value.scale).1 != 0) = (value.mantissa != 0) := by
    rw [Bool.eq_iff_iff, bne_iff_ne, bne_iff_ne, Ne, Ne, stripZeros_eq_zero_iff]
  simp only [IsNormal, normalise, stripZeros_stripped, sign, Bool.and_assoc, Bool.and_self]

end Decimal

end Passbook
