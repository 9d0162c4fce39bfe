import Passbook.Decimal.Text
import Passbook.Proofs.Decimal.Positional

/-!
Decimals survive being written and read, with their number of fractional digits. Only the sign of a
zero is lost.
-/

set_option autoImplicit false

namespace Passbook.Decimal

open Nat (ofDigitChars)
open Text (le_ofDigitChars ofDigitChars_padded padded_isDigit)

variable {whole fraction : List Char} {negative : Bool} {value : Decimal}

/-- Digits that all fit are read exactly, whatever the sign. -/
theorem readUnsigned_exact (negative : Bool) (wholeDigits : whole.all Char.isDigit)
    (nonempty : whole ≠ []) (fractionDigits : fraction.all Char.isDigit)
    (small : ofDigitChars 10 (whole ++ fraction) 0 < mantissaBound)
    (fine : fraction.length ≤ maxScale) :
    readUnsigned negative 0 0 false false (whole ++ if fraction = [] then [] else '.' :: fraction) =
      ofParts? negative (ofDigitChars 10 (whole ++ fraction) 0) fraction.length := by
  have seen : (false || !whole.isEmpty) = true := by simpa using nonempty
  rw [Nat.ofDigitChars_append] at small ⊢
  rw [readUnsigned_append wholeDigits ((le_ofDigitChars _ _).trans_lt small) (by simp), seen,
    if_neg Bool.false_ne_true]
  by_cases integral : fraction = []
  · rw [integral, if_pos rfl]
    rfl
  · rw [if_neg integral, readUnsigned, if_neg (by decide), if_neg (by decide),
      if_pos (by decide), ← List.append_nil fraction,
      readUnsigned_append fractionDigits small (by simpa using fine), List.append_nil,
      if_pos rfl, Nat.zero_add]
    rfl

theorem readPlain_signed {text : List Char}
    (digit : ∃ first rest, text = first :: rest ∧ first.isDigit = true) :
    readPlain ((if negative then ['-'] else []) ++ text) =
      readUnsigned negative 0 0 false false text := by
  obtain ⟨first, rest, rfl, isDigit⟩ := digit
  cases negative with
  | true => rfl
  | false => exact readPlain_digits (by simpa using isDigit) (List.cons_ne_nil first []) rest

theorem exists_toChars_eq (value : Decimal) :
    ∃ whole fraction, whole.all Char.isDigit = true ∧ whole ≠ [] ∧
      fraction.all Char.isDigit = true ∧
    fraction.length = value.scale ∧ ofDigitChars 10 (whole ++ fraction) 0 = value.mantissa ∧
    value.toChars = (if value.negative then ['-'] else []) ++ (whole ++ if fraction = [] then
      [] else '.' :: fraction) := by
  have isDigit : (paddedDigits value.mantissa value.scale).all Char.isDigit = true :=
    padded_isDigit _ value.mantissa
  have number : ofDigitChars 10 (paddedDigits value.mantissa value.scale) 0 = value.mantissa :=
    ofDigitChars_padded _ value.mantissa
  have long : value.scale < (paddedDigits value.mantissa value.scale).length := by
    rw [paddedDigits, List.length_append, List.length_replicate]
    omega
  have text := toChars.eq_1 value
  generalize paddedDigits value.mantissa value.scale = digits at isDigit number long text
  -- The digits are cut where the point stands, which is written only if something follows it.
  have both := List.take_append_drop (digits.length - value.scale) digits
  have length : (digits.drop (digits.length - value.scale)).length = value.scale := by
    rw [List.length_drop]
    omega
  have point : value.scale = 0 ↔ digits.drop (digits.length - value.scale) = [] := by
    rw [← List.length_eq_zero_iff, length]
  rw [← both, List.all_append, Bool.and_eq_true] at isDigit
  refine ⟨_, _, isDigit.1, ?_, isDigit.2, length, by rw [both, number], ?_⟩
  · exact List.ne_nil_of_length_pos (by rw [List.length_take]; omega)
  · rw [text, List.append_assoc]
    simp only [point]

theorem read_toChars (value : Decimal) :
    read value.toChars = ofParts? value.negative value.mantissa value.scale := by
  obtain ⟨whole, fraction, wholeDigits, nonempty, fractionDigits, length, number, text⟩ :=
    exists_toChars_eq value
  have exact :=
    readUnsigned_exact value.negative wholeDigits nonempty fractionDigits
      (number.symm ▸ value.mantissa_lt) (length.symm ▸ value.scale_le)
  have first : ∃ first rest, (whole ++ if fraction = [] then [] else '.' :: fraction) =
      first :: rest ∧ first.isDigit = true := by
    obtain ⟨first, rest, rfl⟩ := List.exists_cons_of_ne_nil nonempty
    rw [List.all_cons, Bool.and_eq_true] at wholeDigits
    exact ⟨first, _, rfl, wholeDigits.1⟩
  rw [read, text, readPlain_signed first, exact, number, length, ofParts?,
    dif_pos ⟨value.mantissa_lt, value.scale_le⟩]
  rfl

/-- What is read denotes what was written. -/
theorem exists_read_toChars (value : Decimal) :
    ∃ read, Decimal.read value.toChars = some read ∧ read.toRat = value.toRat := by
  have parts : ofParts? value.negative value.mantissa value.scale = some _ :=
    dif_pos ⟨value.mantissa_lt, value.scale_le⟩
  exact ⟨_, (read_toChars value).trans parts, (toRat_ofParts? parts).trans (toRat_eq value).symm⟩

theorem IsNormal.read_toChars (normal : value.IsNormal) : read value.toChars = some value := by
  have sign : (value.negative && value.mantissa != 0) = value.negative :=
    congrArg Decimal.negative normal
  rw [Decimal.read_toChars, ofParts?, dif_pos ⟨value.mantissa_lt, value.scale_le⟩, sign]

end Passbook.Decimal
