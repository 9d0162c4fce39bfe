import Mathlib.Algebra.Order.Floor.Semiring
import Mathlib.Data.Nat.Find
import Passbook.Proofs.Decimal.Positional
import Passbook.Proofs.Decimal.Units

/-!
Plain texts of any length: a sign, digits, and perhaps a point and more digits. Such a text is read
as the number that it denotes, rounded half up to the digits of the fraction that a decimal has room
for. An amount that can be written without rounding is never touched by it, but a number that is no
amount can be rounded to one.
-/

set_option autoImplicit false

namespace Passbook.Decimal

open Nat (ofDigitChars)
open Text (ofDigitChars_lt)

/-- A whole number is its own neighbour, halves rounded up. -/
theorem floor_add_half (units : ℕ) : ⌊(units : ℚ) + 1 / 2⌋₊ = units := by
  rw [Nat.floor_eq_iff (by positivity)]
  constructor <;> linarith

/-- The sign in front of a plain text, which may be left out. -/
inductive Sign
  | none
  | plus
  | minus
  deriving DecidableEq

namespace Sign

def text : Sign → List Char
  | none => []
  | plus => ['+']
  | minus => ['-']

def factor : Sign → ℚ
  | none => 1
  | plus => 1
  | minus => -1

end Sign

/-- A sign, digits, and perhaps a point and more digits. There is at least one digit, on either side
of the point. -/
structure PlainText where
  sign : Sign
  whole : List Char
  point : Bool
  fraction : List Char
  wholeDigits : whole.all Char.isDigit = true
  fractionDigits : fraction.all Char.isDigit = true
  pointed : fraction ≠ [] → point = true
  nonempty : whole ++ fraction ≠ []

namespace PlainText

variable (text : PlainText)

/-- The text after its sign. -/
def unsigned : List Char := text.whole ++ if text.point then '.' :: text.fraction else []

def chars : List Char := text.sign.text ++ text.unsigned

/-- The digits up to so many of the fraction, as one whole number. -/
def upTo (places : ℕ) : ℕ := ofDigitChars 10 (text.whole ++ text.fraction.take places) 0

/-- All digits as one whole number, the point left out. -/
def number : ℕ := ofDigitChars 10 (text.whole ++ text.fraction) 0

def size : ℚ := text.number / 10 ^ text.fraction.length

def toRat : ℚ := text.sign.factor * text.size

/-- The digits of the fraction for which a decimal has room. -/
def places : ℕ :=
  Nat.findGreatest (fun places => text.upTo places < mantissaBound)
    (min maxScale text.fraction.length)

/-- The number without its sign, as far as a decimal has room for it, rounding half up. -/
def roundedSize : ℚ := ⌊text.size * 10 ^ text.places + 1 / 2⌋₊ / 10 ^ text.places

def rounded : ℚ := text.sign.factor * text.roundedSize

/-- Whether the text denotes an amount. -/
structure Payable : Prop where
  positive : 0 < text.toRat
  bounded : text.toRat ≤ maxMoney.toRat
  fine : ∃ units : ℕ, text.toRat = units / 10 ^ moneyScale

/-- Whether there is room for all digits. -/
def Fits : Prop := text.number < mantissaBound ∧ text.fraction.length ≤ maxScale

variable {text}

/-!
## The last place
-/

theorem places_le (text : PlainText) : text.places ≤ min maxScale text.fraction.length :=
  Nat.findGreatest_le _

theorem upTo_all {places : ℕ} (all : text.fraction.length ≤ places) :
    text.upTo places = text.number := by
  rw [upTo, number, List.take_of_length_le all]

theorem upTo_places (room : text.upTo 0 < mantissaBound) : text.upTo text.places < mantissaBound :=
  Nat.findGreatest_spec (P := fun places => text.upTo places < mantissaBound) (Nat.zero_le _) room

theorem le_upTo_of_places_lt {more : ℕ} (beyond : text.places < more)
    (fine : more ≤ min maxScale text.fraction.length) :
    mantissaBound ≤ text.upTo more :=
  not_lt.mp (Nat.findGreatest_is_greatest (P := fun places => text.upTo places < mantissaBound)
    beyond fine)

/-- The number as a whole number of units of the last place and a rest below one unit. -/
theorem size_split {places : ℕ} (fine : places ≤ text.fraction.length) :
    text.size * 10 ^ places =
      text.upTo places + ofDigitChars 10 (text.fraction.drop places) 0 / 10 ^
        (text.fraction.drop places).length := by
  have digits : text.number = 10 ^ (text.fraction.drop places).length * text.upTo places +
      ofDigitChars 10 (text.fraction.drop places) 0 := by
    rw [upTo, ← Nat.ofDigitChars_eq_ofDigitChars_zero, ← Nat.ofDigitChars_append, List.append_assoc,
      List.take_append_drop, number]
  have length : text.fraction.length = places + (text.fraction.drop places).length := by
    rw [List.length_drop]
    omega
  rw [size, digits, length, pow_add]
  push_cast
  field_simp

theorem drop_digits (text : PlainText) (places : ℕ) :
    (text.fraction.drop places).all Char.isDigit = true := by
  have isDigits := text.fractionDigits
  rw [← List.take_append_drop places text.fraction, List.all_append, Bool.and_eq_true] at isDigits
  exact isDigits.2

theorem rest_lt (text : PlainText) (places : ℕ) :
    (ofDigitChars 10 (text.fraction.drop places) 0 : ℚ) / 10 ^ (text.fraction.drop places).length <
      1 := by
  rw [div_lt_one (by positivity)]
  exact_mod_cast ofDigitChars_lt (drop_digits text places)

theorem upTo_le_size (text : PlainText) {places : ℕ} (fine : places ≤ text.fraction.length) :
    (text.upTo places : ℚ) ≤ text.size * 10 ^ places := by
  rw [size_split fine]
  exact le_add_of_nonneg_right (by positivity)

/-- A number of whole units of the last place is not rounded. -/
theorem rounded_of_whole (units : ℕ) (whole : text.size * 10 ^ text.places = units) :
    text.rounded = text.toRat := by
  rw [rounded, roundedSize, toRat, whole, floor_add_half, ← whole]
  field_simp

theorem rounded_of_places (all : text.places = text.fraction.length) :
    text.rounded = text.toRat := by
  refine rounded_of_whole text.number ?_
  rw [all, size]
  field_simp

theorem Fits.rounded (fits : text.Fits) : text.rounded = text.toRat := by
  refine rounded_of_places
    (le_antisymm (text.places_le.trans (Nat.min_le_right _ _)) (Nat.le_findGreatest ?_ ?_))
  · exact Nat.le_min.mpr ⟨fits.2, le_rfl⟩
  · rw [upTo_all le_rfl]
    exact fits.1

/-- Rounding is by at most half a unit of the last place. -/
theorem abs_rounded_sub (text : PlainText) :
    |text.rounded - text.toRat| ≤ 1 / (2 * 10 ^ text.places) := by
  have unit : (0 : ℚ) < 10 ^ text.places := by positivity
  have nonneg : 0 ≤ text.size * 10 ^ text.places + 1 / 2 := by
    rw [size]
    positivity
  have below := Nat.floor_le nonneg
  have above := Nat.lt_floor_add_one (text.size * 10 ^ text.places + 1 / 2)
  have factor : |text.sign.factor| = 1 := by cases text.sign <;> simp [Sign.factor]
  have difference : text.rounded - text.toRat =
      text.sign.factor *
        ((⌊text.size * 10 ^ text.places + 1 / 2⌋₊ - text.size * 10 ^ text.places) /
          10 ^ text.places) := by
    rw [rounded, roundedSize, toRat]
    field_simp
  rw [difference, abs_mul, factor, one_mul, abs_div, abs_of_pos unit,
    div_le_div_iff₀ unit (by positivity)]
  have half : |(⌊text.size * 10 ^ text.places + 1 / 2⌋₊ : ℚ) - text.size * 10 ^ text.places| ≤
      1 / 2 := by
    rw [abs_le]
    constructor <;> linarith
  linarith [mul_le_mul_of_nonneg_right half unit.le]

theorem roundedSize_nonneg (text : PlainText) : 0 ≤ text.roundedSize := by
  rw [roundedSize]
  positivity

theorem le_roundedSize {least : ℕ} (large : (least : ℚ) ≤ text.size) :
    (least : ℚ) ≤ text.roundedSize := by
  have units : least * 10 ^ text.places ≤ ⌊text.size * 10 ^ text.places + 1 / 2⌋₊ := by
    apply Nat.le_floor
    have product := mul_le_mul_of_nonneg_right large (by positivity : (0 : ℚ) ≤ 10 ^ text.places)
    push_cast
    linarith
  rw [roundedSize, le_div_iff₀ (by positivity)]
  exact_mod_cast units

/-!
## Amounts have room
-/

/-- Four places and sixteen digits before the point leave room for twelve digits of the fraction. -/
theorem le_places (small : text.size < 10 ^ 16) : min 12 text.fraction.length ≤ text.places := by
  set count := min 12 text.fraction.length with isCount
  have fine : count ≤ text.fraction.length := Nat.min_le_right _ _
  refine Nat.le_findGreatest (Nat.le_min.mpr ⟨(Nat.min_le_left _ _).trans (by decide), fine⟩) ?_
  have grid : (10 : ℚ) ^ count ≤ 10 ^ 12 := pow_le_pow_right₀ (by norm_num) (Nat.min_le_left _ _)
  have digits : (text.upTo count : ℚ) < (10 ^ 28 : ℕ) := by
    calc (text.upTo count : ℚ) ≤ text.size * 10 ^ count := text.upTo_le_size fine
      _ < 10 ^ 16 * 10 ^ count := by gcongr
      _ ≤ 10 ^ 16 * 10 ^ 12 := by gcongr
      _ = (10 ^ 28 : ℕ) := by norm_num
  have room : 10 ^ 28 < mantissaBound := by decide
  exact (Nat.cast_lt.mp digits).trans room

theorem maxMoney_lt : maxMoney.toRat < 10 ^ 16 := by
  norm_num [Decimal.toRat, Decimal.coefficient, maxMoney, moneyScale]

theorem size_eq_of_pos (positive : 0 < text.toRat) :
    text.sign.factor = 1 ∧ text.size = text.toRat := by
  have nonneg : 0 ≤ text.size := by
    rw [size]
    positivity
  rw [toRat] at positive ⊢
  cases sign : text.sign <;> simp only [sign, Sign.factor, one_mul, true_and] at positive ⊢
  linarith

/-- What denotes an amount is not rounded, however many digits it is written with. -/
theorem Payable.rounded (payable : text.Payable) : text.rounded = text.toRat := by
  obtain ⟨units, value⟩ := payable.fine
  obtain ⟨-, same⟩ := size_eq_of_pos payable.positive
  have small : text.size < 10 ^ 16 := same ▸ payable.bounded.trans_lt maxMoney_lt
  have room := le_places small
  by_cases short : text.fraction.length ≤ 12
  · have all := text.places_le
    exact rounded_of_places (by omega)
  · obtain ⟨more, split⟩ :=
      Nat.exists_eq_add_of_le (show moneyScale ≤ text.places by rw [moneyScale]; omega)
    refine rounded_of_whole (units * 10 ^ more) ?_
    rw [same, value, split, pow_add]
    push_cast
    field_simp

/-- What is rounded to an amount is written with all its digits read, or with twelve digits of its
fraction. -/
theorem places_of_rounded {amount : Amount} (same : amount.value.toRat = text.rounded) :
    text.places = text.fraction.length ∨ 12 ≤ text.places := by
  have positive : 0 < text.rounded := same ▸ amount.toRat_pos
  have bounded : text.rounded ≤ maxMoney.toRat := same ▸ amount.toRat_le
  have factor : text.sign.factor = 1 := by
    cases sign : text.sign <;> simp only [Sign.factor]
    rw [PlainText.rounded, sign, Sign.factor, neg_one_mul, neg_pos] at positive
    exact absurd positive (not_lt.mpr text.roundedSize_nonneg)
  have small : text.size < 10 ^ 16 := by
    by_contra large
    have least : ((10 ^ 16 : ℕ) : ℚ) ≤ text.roundedSize :=
      le_roundedSize (by push_cast; exact not_lt.mp large)
    rw [PlainText.rounded, factor, one_mul] at bounded
    push_cast at least
    linarith [maxMoney_lt]
  have room := le_places small
  have all := text.places_le
  omega

/-- A text that is rounded to an amount is at most `10 ^ -12 / 2` away from it. -/
theorem close_of_rounded {amount : Amount} (same : amount.value.toRat = text.rounded) :
    |amount.value.toRat - text.toRat| ≤ 1 / (2 * 10 ^ 12) := by
  rw [same]
  rcases places_of_rounded same with all | many
  · rw [rounded_of_places all, sub_self, abs_zero]
    positivity
  · calc |text.rounded - text.toRat| ≤ 1 / (2 * 10 ^ text.places) := text.abs_rounded_sub
      _ ≤ 1 / (2 * 10 ^ 12) := by gcongr; norm_num

/-- With room for all digits, or with a fraction of at most twelve, a text is rounded to an amount
only if it denotes that amount. -/
theorem exact_of_rounded {amount : Amount} (same : amount.value.toRat = text.rounded)
    (short : text.Fits ∨ text.fraction.length ≤ 12) :
    text.rounded = text.toRat := by
  rcases short with fits | short
  · exact fits.rounded
  · have all := text.places_le
    rcases places_of_rounded same with all | many
    · exact rounded_of_places all
    · exact rounded_of_places (by omega)

theorem payable_iff : text.Payable ↔ ∃ amount : Amount, amount.value.toRat = text.toRat := by
  rw [Amount.exists_iff]
  exact ⟨fun payable => ⟨payable.positive, payable.bounded, payable.fine⟩,
    fun ⟨positive, bounded, fine⟩ => ⟨positive, bounded, fine⟩⟩

end PlainText

end Passbook.Decimal
