import Passbook.Decimal.Reading
import Passbook.Proofs.Decimal.Shortest
import Passbook.Proofs.Text.Digits

/-!
Reading positional texts. Digits that fit are read exactly; zeros at the end of a fraction may be
given up and do not change the number.
-/

set_option autoImplicit false

namespace Passbook.Decimal

open Nat (ofDigitChars)
open Text (append_digitValue le_ofDigitChars ofDigitChars_padded padded_isDigit toDigits_isDigit)

variable {digits whole fraction rest : List Char} {mantissa scale : ℕ} {negative point seen : Bool}

/-!
## Texts
-/

theorem ofParts?_toRat (small : mantissa < mantissaBound) (fine : scale ≤ 28) :
    ∃ value, ofParts? false mantissa scale = some value ∧ value.toRat = mantissa / 10 ^ scale := by
  refine ⟨_, dif_pos ⟨small, fine⟩, ?_⟩
  rw [toRat_eq, Bool.false_and, if_neg Bool.false_ne_true, one_mul]

theorem readUnsigned_append (isDigit : digits.all Char.isDigit)
    (small : ofDigitChars 10 digits mantissa < mantissaBound)
    (fine : point = true → scale + digits.length ≤ maxScale) (rest : List Char) :
    readUnsigned negative mantissa scale point seen (digits ++ rest) =
      readUnsigned negative (ofDigitChars 10 digits mantissa) (if point then scale + digits.length
        else scale) point (seen || !digits.isEmpty) rest := by
  induction digits generalizing mantissa scale seen with
  | nil => simp
  | cons digit digits ih =>
      rw [List.all_cons, Bool.and_eq_true] at isDigit
      rw [Nat.ofDigitChars_cons] at small
      have fits := (le_ofDigitChars digits _).trans_lt small
      have room : (point && scale == maxScale) = false := by
        cases point with
        | false => rfl
        | true =>
            have longer := fine rfl
            simp only [List.length_cons] at longer
            simp only [Bool.true_and, beq_eq_false_iff_ne]
            omega
      rw [List.cons_append, readUnsigned, if_neg (by rw [room]; decide), if_pos isDigit.1]
      simp only [append_digitValue, fits, if_true]
      rw [ih isDigit.2 small (fun isPoint => by
        have longer := fine isPoint
        simp only [isPoint, if_true, List.length_cons] at longer ⊢
        omega)]
      cases point <;> simp [Nat.ofDigitChars_cons, Nat.add_comm, Nat.add_left_comm]

theorem roundLast_zeros (mantissa scale count : ℕ) :
    roundLast false mantissa scale 0 (List.replicate count '0') =
      ofParts? false mantissa scale := by
  simp [roundLast, List.all_replicate]

/-- Zeros at the end of a fraction do not change the number, whether or not they fit. -/
theorem readUnsigned_zeros (small : mantissa < mantissaBound) (fine : scale ≤ maxScale)
    (count : ℕ) :
    ∃ value, readUnsigned false mantissa scale true true (List.replicate count '0') = some value ∧
      value.toRat = mantissa / 10 ^ scale := by
  have zero : Text.digitValue '0' = 0 := by decide
  induction count generalizing mantissa scale with
  | zero => exact ofParts?_toRat small fine
  | succ count ih =>
      rw [List.replicate_succ, readUnsigned]
      by_cases last : scale = maxScale
      · rw [if_pos (by simp [last]), if_pos (by decide), zero, roundLast_zeros]
        exact ofParts?_toRat small fine
      · rw [if_neg (by simpa using last), if_pos (by decide)]
        simp only [zero, add_zero, if_true]
        split
        · next fits =>
            obtain ⟨value, found, same⟩ := ih fits (Nat.lt_of_le_of_ne fine last)
            refine ⟨value, found, ?_⟩
            rw [same, pow_succ]
            push_cast
            field_simp
        · rw [roundLast_zeros]
          exact ofParts?_toRat small fine

theorem readPlain_digits (isDigit : digits.all Char.isDigit) (nonempty : digits ≠ [])
    (rest : List Char) :
    readPlain (digits ++ rest) = readUnsigned false 0 0 false false (digits ++ rest) := by
  cases digits with
  | nil => exact absurd rfl nonempty
  | cons digit digits =>
      rw [List.all_cons, Bool.and_eq_true] at isDigit
      rw [List.cons_append, readPlain]
      · rintro _ ⟨rfl, -⟩
        exact absurd isDigit.1 (by decide)
      · rintro _ ⟨rfl, -⟩
        exact absurd isDigit.1 (by decide)

theorem readPlain_whole (isDigit : whole.all Char.isDigit) (nonempty : whole ≠ [])
    (small : ofDigitChars 10 whole 0 < mantissaBound) :
    ∃ value, readPlain whole = some value ∧ value.toRat = ofDigitChars 10 whole 0 := by
  have seen : (false || !whole.isEmpty) = true := by simpa using nonempty
  obtain ⟨value, found, same⟩ := ofParts?_toRat small (Nat.zero_le 28)
  refine ⟨value, ?_, by rw [same, pow_zero, div_one]⟩
  rw [← List.append_nil whole, readPlain_digits isDigit nonempty,
    readUnsigned_append isDigit small (by simp), seen, readUnsigned]
  exact found

/-- A fraction is read exactly if its digits without the zeros at the end fit. -/
theorem readPlain_fraction (wholeDigits : whole.all Char.isDigit) (nonempty : whole ≠ [])
    (fractionDigits : fraction.all Char.isDigit)
    (small : ofDigitChars 10 (whole ++ fraction) 0 < mantissaBound)
    (fine : fraction.length ≤ maxScale) (zeros : ℕ) :
    ∃ value, readPlain (whole ++ '.' :: (fraction ++ List.replicate zeros '0')) = some value ∧
      value.toRat = ofDigitChars 10 (whole ++ fraction) 0 / 10 ^ fraction.length := by
  have seen : (false || !whole.isEmpty) = true := by simpa using nonempty
  rw [Nat.ofDigitChars_append] at small ⊢
  obtain ⟨value, found, same⟩ := readUnsigned_zeros small fine zeros
  refine ⟨value, ?_, same⟩
  rw [readPlain_digits wholeDigits nonempty,
    readUnsigned_append wholeDigits ((le_ofDigitChars _ _).trans_lt small) (by simp), seen,
    readUnsigned]
  simp only [Bool.false_and, Bool.false_eq_true, if_false]
  rw [if_neg (by decide), if_pos (by decide),
    readUnsigned_append fractionDigits small (by simpa using fine)]
  simpa using found

/-!
## The text of decimal digits
-/

open Double (Digits)

theorem readPlain_plain_whole {value : Digits} (nonzero : value.digits ≠ 0)
    (whole : 0 ≤ value.power) (small : value.digits * 10 ^ value.power.toNat < mantissaBound) :
    ∃ read, readPlain value.plain = some read ∧ read.toRat = value.toRat := by
  have number :
    ofDigitChars 10 (Nat.toDigits 10 value.digits ++ List.replicate value.power.toNat '0') 0 =
      value.digits * 10 ^ value.power.toNat := by
    rw [Nat.ofDigitChars_append, Nat.ofDigitChars_ten_toDigits,
      Nat.ofDigitChars_replicate_zero, mul_comm]
  have isDigit : (Nat.toDigits 10 value.digits ++ List.replicate value.power.toNat '0').all
      Char.isDigit = true := by
    rw [List.all_append, toDigits_isDigit]
    simp [List.all_replicate]
  obtain ⟨read, found, same⟩ := readPlain_whole isDigit
    (List.append_ne_nil_of_left_ne_nil Nat.toDigits_ne_nil _) (number ▸ small)
  refine ⟨read, ?_, ?_⟩
  · rw [Digits.plain, if_pos whole, if_neg nonzero, found]
  · rw [same, number, Digits.toRat, zpow_of_nonneg 10 whole]
    push_cast
    rfl

theorem readPlain_plain_fraction {value : Digits} (negative : ¬ 0 ≤ value.power)
    (fine : -28 ≤ value.power) (small : value.digits < mantissaBound) :
    ∃ read, readPlain value.plain = some read ∧ read.toRat = value.toRat := by
  rw [Digits.plain]
  simp only [negative, if_false]
  set padded :=
    List.replicate ((-value.power).toNat + 1 - (Nat.toDigits 10 value.digits).length) '0' ++
      Nat.toDigits 10 value.digits with isPadded
  have number : ofDigitChars 10 padded 0 = value.digits := by
    rw [isPadded, ofDigitChars_padded]
  have long : (-value.power).toNat < padded.length := by
    rw [isPadded, List.length_append, List.length_replicate]
    omega
  have isDigit : padded.all Char.isDigit := by
    rw [isPadded]
    exact padded_isDigit _ value.digits
  -- The text is cut so that the fraction has as many digits as the power asks for.
  set cut := padded.length - (-value.power).toNat with isCut
  have both : padded.take cut ++ padded.drop cut = padded := List.take_append_drop cut padded
  have length : (padded.drop cut).length = (-value.power).toNat := by
    rw [List.length_drop]
    omega
  rw [← both, List.all_append, Bool.and_eq_true] at isDigit
  obtain ⟨read, found, same⟩ :=
    readPlain_fraction isDigit.1 (List.ne_nil_of_length_pos (by rw [List.length_take]; omega))
      isDigit.2 (by rw [both, number]; exact small) (by rw [length]; simp only [maxScale]; omega) 0
  rw [both, number, length] at same
  rw [List.replicate_zero, List.append_nil] at found
  refine ⟨read, found, ?_⟩
  rw [same, Digits.toRat, zpow_of_neg 10 negative, div_eq_mul_inv]

theorem readPlain_plain {value : Digits} (nonzero : value.digits ≠ 0) (fine : -28 ≤ value.power)
    (small : value.digits * 10 ^ value.power.toNat < mantissaBound) :
    ∃ read, readPlain value.plain = some read ∧ read.toRat = value.toRat := by
  by_cases whole : 0 ≤ value.power
  · exact readPlain_plain_whole nonzero whole small
  · have integral : value.power.toNat = 0 := by omega
    rw [integral, pow_zero, mul_one] at small
    exact readPlain_plain_fraction whole fine small

/-- The shortest text of a double of moderate size is read exactly. -/
theorem readPlain_shortest (tie : Double.Tie) {value : Double} (normal : value.Normal)
    (lower : (10 : ℚ) ^ (-11 : ℤ) ≤ value.toRat) (upper : value.toRat ≤ 10 ^ 17) :
    ∃ read, readPlain (Double.shortest tie value).plain = some read ∧
      read.toRat = (Double.shortest tie value).toRat := by
  obtain ⟨same, fine⟩ := normal.shortest_spec tie
  set shortest := Double.shortest tie value
  have positive := normal.toRat_pos
  have unit : ∀ power : ℤ, (0 : ℚ) < 10 ^ power := fun power => zpow_pos (by norm_num) power
  have error := abs_le.mp (Double.nearestTo?_error shortest.toRat_nonneg same)
  have step := normal.le_toRat
  have denoted : shortest.toRat = shortest.digits * 10 ^ shortest.power := rfl
  have leading : -11 ≤ Int.log 10 value.toRat :=
    (Int.zpow_le_iff_le_log (b := 10) (by norm_num) positive).mp (by exact_mod_cast lower)
  refine readPlain_plain ?_ (by omega) ?_
  · intro zero
    rw [zero, Nat.cast_zero, zero_mul] at denoted
    linarith
  · have size : (shortest.digits * 10 ^ shortest.power.toNat : ℚ) ≤ 2 * 10 ^ 18 := by
      by_cases isWhole : 0 ≤ shortest.power
      · rw [← zpow_of_nonneg 10 isWhole, ← denoted]
        linarith
      · have integral : shortest.power.toNat = 0 := by omega
        have below : value.toRat < 10 ^ (Int.log 10 value.toRat + 1) := by
          exact_mod_cast Int.lt_zpow_succ_log_self (b := 10) (by norm_num) value.toRat
        have grid : (10 : ℚ) ^ (Int.log 10 value.toRat - 17) ≤ 10 ^ shortest.power :=
          zpow_le_zpow_right₀ (by norm_num) fine
        have scaled : (10 : ℚ) ^ (Int.log 10 value.toRat + 1) =
            10 ^ 18 * 10 ^ (Int.log 10 value.toRat - 17) := by
          rw [← zpow_natCast, ← zpow_add₀ (by norm_num)]
          congr 1
          omega
        rw [integral, pow_zero, mul_one]
        have product : (shortest.digits : ℚ) * 10 ^ shortest.power ≤
            2 * 10 ^ 18 * 10 ^ shortest.power := by linarith
        exact le_of_mul_le_mul_right product (unit _)
    have room : 2 * 10 ^ 18 < mantissaBound := by decide
    have cast : shortest.digits * 10 ^ shortest.power.toNat ≤ 2 * 10 ^ 18 := by exact_mod_cast size
    exact cast.trans_lt room

end Passbook.Decimal
