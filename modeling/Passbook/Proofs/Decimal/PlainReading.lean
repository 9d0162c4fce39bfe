import Mathlib.Data.List.TakeWhile
import Passbook.Proofs.Decimal.Plain

/-!
Reading plain texts as amounts. Whatever its length, a plain text is read as the amount that its
rounded number is, and as no amount at all if the rounded number is none.
-/

set_option autoImplicit false

namespace Passbook.Decimal

open Nat (ofDigitChars)
open Text (append_digitValue ofDigitChars_lt)

variable {digits : List Char} {mantissa scale : ℕ} {point seen : Bool}

/-!
## Digits without room
-/

/-- Digits of the whole part are never given up. -/
theorem readUnsigned_wide (isDigit : digits.all Char.isDigit)
    (wide : mantissaBound ≤ ofDigitChars 10 digits mantissa) (small : mantissa < mantissaBound)
    (rest : List Char) : readUnsigned false mantissa scale false seen (digits ++ rest) = none := by
  induction digits generalizing mantissa seen with
  | nil => exact absurd small (not_lt.mpr wide)
  | cons digit digits ih =>
      rw [List.all_cons, Bool.and_eq_true] at isDigit
      rw [Nat.ofDigitChars_cons, ← append_digitValue] at wide
      rw [List.cons_append, readUnsigned]
      simp only [Bool.false_and, Bool.false_eq_true, if_false, isDigit.1, if_true]
      by_cases fits : mantissa * 10 + Text.digitValue digit < mantissaBound
      · rw [if_pos fits]
        exact ih isDigit.2 wide fits
      · rw [if_neg fits]

/-- The first digit of the fraction without room, or after the last place, decides about rounding.
-/
theorem readUnsigned_full {digit : Char} (isDigit : digit.isDigit = true) (rest : List Char)
    (full : scale = maxScale ∨ mantissaBound ≤ mantissa * 10 + Text.digitValue digit) :
    readUnsigned false mantissa scale true seen (digit :: rest) =
      roundLast false mantissa scale (Text.digitValue digit) rest := by
  rw [readUnsigned]
  by_cases last : scale = maxScale
  · rw [if_pos (by simp [last]), if_pos isDigit]
  · have wide := full.resolve_left last
    rw [if_neg (by simpa using last), if_pos isDigit]
    simp only [not_lt.mpr wide, if_false, if_true]

/-- A reading with a minus sign is never above zero. -/
theorem readUnsigned_negative {text : List Char} {value : Decimal}
    (found : readUnsigned true mantissa scale point seen text = some value) :
    value.toRat ≤ 0 := by
  have parts : ∀ {mantissa scale : ℕ} {value : Decimal}, ofParts? true mantissa scale = some value →
      value.toRat ≤ 0 := by
    intro mantissa scale value found
    rw [toRat_ofParts? found, if_pos rfl, neg_one_mul, neg_nonpos]
    positivity
  have last : ∀ {mantissa scale digit : ℕ} {text : List Char} {value : Decimal},
      roundLast true mantissa scale digit text = some value → value.toRat ≤ 0 := by
    intro mantissa scale digit text value found
    rw [roundLast.eq_def] at found
    by_cases onlyDigits : (text.all fun char => char.isDigit || char == '_') = true
    · rw [if_pos onlyDigits] at found
      by_cases below : digit < 5
      · rw [if_pos below] at found
        exact parts found
      · rw [if_neg below] at found
        cases rounded : ofParts? true (mantissa + 1) scale with
        | some rounding =>
            rw [rounded] at found
            exact parts (rounded.trans found)
        | none =>
            rw [rounded] at found
            cases scale with
            | zero => cases found
            | succ fewer => exact parts found
    · rw [if_neg onlyDigits] at found
      cases found
  fun_induction readUnsigned true mantissa scale point seen text <;> grind

/-!
## Rounding the last digit
-/

/-- Half a unit of the last place is what the next digit decides about. -/
theorem half_le_iff (digit : Char) (restDigits : digits.all Char.isDigit) :
    (1 / 2 : ℚ) ≤ ofDigitChars 10 (digit :: digits) 0 / 10 ^ (digits.length + 1) ↔
      5 ≤ Text.digitValue digit := by
  have below : ofDigitChars 10 digits 0 < 10 ^ digits.length := ofDigitChars_lt restDigits
  have number : ofDigitChars 10 (digit :: digits) 0 = 10 ^ digits.length * Text.digitValue digit +
      ofDigitChars 10 digits 0 := by
    rw [Nat.ofDigitChars_cons, Nat.ofDigitChars_eq_ofDigitChars_zero, ← append_digitValue, zero_mul,
      zero_add]
  rw [div_le_div_iff₀ (by norm_num) (by positivity), one_mul, number, pow_succ]
  have onNaturals : (10 ^ digits.length * 10 : ℚ) ≤
    ((10 ^ digits.length * Text.digitValue digit + ofDigitChars 10 digits 0 : ℕ) : ℚ) * 2 ↔
      10 ^ digits.length * 10 ≤
        (10 ^ digits.length * Text.digitValue digit + ofDigitChars 10 digits 0) * 2 := by
    exact_mod_cast Iff.rfl
  rw [onNaturals]
  constructor
  · intro enough
    by_contra few
    have unit : 10 ^ digits.length * Text.digitValue digit ≤ 10 ^ digits.length * 4 :=
      Nat.mul_le_mul_left _ (by omega)
    omega
  · intro large
    have unit : 10 ^ digits.length * 5 ≤ 10 ^ digits.length * Text.digitValue digit :=
      Nat.mul_le_mul_left _ large
    omega

end Passbook.Decimal

namespace Passbook

/-- No amount has another last digit than zero that far behind the point. -/
theorem Amount.ne_of_final (amount : Amount) {number places : ℕ} (large : 10 ^ 20 < number)
    (final : number % 10 ≠ 0) :
    amount.value.toRat ≠ number / 10 ^ places := by
  intro same
  obtain ⟨units, worth⟩ := amount.exists_units
  have bounded := (amount.units_bounds worth).2
  rw [worth, div_eq_div_iff (by positivity) (by positivity)] at same
  have product : units * 10 ^ places = number * 10 ^ moneyScale := by exact_mod_cast same
  by_cases few : places ≤ moneyScale
  · have scaled : units * 10 ^ places ≤ units * 10 ^ moneyScale :=
      Nat.mul_le_mul_left _ (Nat.pow_le_pow_right (by decide) few)
    have least : number ≤ units := Nat.le_of_mul_le_mul_right (product ▸ scaled) (by decide)
    rw [maxUnits] at bounded
    omega
  · obtain ⟨more, split⟩ := Nat.exists_eq_add_of_lt (not_le.mp few)
    have cancelled : number = units * 10 ^ more * 10 := by
      apply Nat.eq_of_mul_eq_mul_right (show 0 < 10 ^ moneyScale by decide)
      rw [← product, split, pow_succ, pow_add]
      ring
    omega

end Passbook

namespace Passbook.Decimal

open Nat (ofDigitChars)
open Text (append_digitValue)

/-- Whether a reading gives a certain amount. -/
def GivesAmount (reading : Option Decimal) (amount : Amount) : Prop :=
  ∃ value, reading = some value ∧ value.toRat = amount.value.toRat

variable {amount : Amount} {mantissa scale digit : ℕ} {rest : List Char}

theorem ofParts?_givesAmount (small : mantissa < mantissaBound) (fine : scale ≤ 28) :
    GivesAmount (ofParts? false mantissa scale) amount ↔
      amount.value.toRat = mantissa / 10 ^ scale := by
  obtain ⟨value, found, same⟩ := ofParts?_toRat small fine
  constructor
  · rintro ⟨other, given, equal⟩
    cases found.symm.trans given
    exact equal.symm.trans same
  · exact fun equal => ⟨value, found, same.trans equal.symm⟩

/-- Rounding up past the largest mantissa gives no amount, with or without the last place. -/
private theorem roundLast_overflow (large : 5 ≤ digit) (onlyDigits : rest.all Char.isDigit)
    (most : mantissa + 1 = mantissaBound) (fine : scale ≤ 28) :
    ¬ GivesAmount (roundLast false mantissa scale digit rest) amount := by
  have plain : (rest.all fun char => char.isDigit || char == '_') = true := by
    rw [List.all_eq_true] at onlyDigits ⊢
    exact fun char member => by rw [onlyDigits char member, Bool.true_or]
  have overflow : ofParts? false (mantissa + 1) scale = none :=
    dif_neg fun bounds => absurd bounds.1 (most ▸ lt_irrefl _)
  rw [roundLast.eq_def, if_pos plain, if_neg (not_lt.mpr large), overflow]
  cases scale with
  | zero =>
      rintro ⟨value, found, -⟩
      cases found
  | succ fewer =>
      have shorter : (mantissa + 5) / 10 = (mantissaBound + 4) / 10 := by rw [← most]
      change ¬ GivesAmount (ofParts? false ((mantissa + 5) / 10) fewer) amount
      rw [shorter, ofParts?_givesAmount (by decide) (by omega)]
      exact amount.ne_of_final (by decide) (by decide)

theorem roundLast_givesAmount (onlyDigits : rest.all Char.isDigit)
    (small : mantissa < mantissaBound) (fine : scale ≤ 28) :
    GivesAmount (roundLast false mantissa scale digit rest) amount ↔
      amount.value.toRat = (if digit < 5 then mantissa else mantissa + 1 : ℕ) / 10 ^ scale := by
  have plain : (rest.all fun char => char.isDigit || char == '_') = true := by
    rw [List.all_eq_true] at onlyDigits ⊢
    exact fun char member => by rw [onlyDigits char member, Bool.true_or]
  by_cases below : digit < 5
  · rw [roundLast.eq_def, if_pos plain, if_pos below, if_pos below]
    exact ofParts?_givesAmount small fine
  · rw [if_neg below]
    by_cases most : mantissa + 1 = mantissaBound
    · rw [most]
      exact iff_of_false (roundLast_overflow (not_lt.mp below) onlyDigits most fine)
        (amount.ne_of_final (by decide) (by decide))
    · have next : mantissa + 1 < mantissaBound := by omega
      obtain ⟨value, found, -⟩ := ofParts?_toRat next fine
      rw [roundLast.eq_def, if_pos plain, if_neg below, found]
      change GivesAmount (some value) amount ↔ _
      rw [← found]
      exact ofParts?_givesAmount next fine

namespace PlainText

variable {text : PlainText}

/-!
## Texts
-/

theorem floor_size {digit : Char} {digits : List Char}
    (cut : text.fraction.drop text.places = digit :: digits) :
    ⌊text.size * 10 ^ text.places + 1 / 2⌋₊ =
      if Text.digitValue digit < 5 then text.upTo text.places else text.upTo text.places + 1 := by
  have restDigits := drop_digits text text.places
  have split :=
    size_split (text.places_le.trans (Nat.min_le_right _ _) : text.places ≤ text.fraction.length)
  have below := rest_lt text text.places
  rw [cut, List.all_cons, Bool.and_eq_true] at restDigits
  rw [cut, List.length_cons] at split below
  have half := half_le_iff digit restDigits.2
  have least : (0 : ℚ) ≤ ofDigitChars 10 (digit :: digits) 0 / 10 ^ (digits.length + 1) := by
    positivity
  rw [split, Nat.floor_eq_iff (by positivity)]
  by_cases down : Text.digitValue digit < 5
  · have small := lt_of_not_ge fun up => absurd down (not_lt.mpr (half.mp up))
    rw [if_pos down]
    constructor <;> linarith
  · have large := half.mpr (not_lt.mp down)
    rw [if_neg down]
    push_cast
    constructor <;> linarith

theorem lt_of_drop {digit : Char} {digits : List Char} {places : ℕ}
    (cut : text.fraction.drop places = digit :: digits) :
    places < text.fraction.length := by
  by_contra beyond
  rw [List.drop_of_length_le (not_lt.mp beyond)] at cut
  cases cut

theorem upTo_next {digit : Char} {digits : List Char} {places : ℕ}
    (cut : text.fraction.drop places = digit :: digits) :
    text.upTo (places + 1) = text.upTo places * 10 + Text.digitValue digit := by
  have inside := lt_of_drop cut
  have head : text.fraction[places] = digit := by
    rw [List.drop_eq_getElem_cons inside] at cut
    exact (List.cons.inj cut).1
  rw [upTo, upTo, List.take_succ_eq_append_getElem inside, head, ← List.append_assoc,
    Nat.ofDigitChars_append, append_digitValue]
  rfl

theorem upTo_eq (text : PlainText) (places : ℕ) :
    text.upTo places =
      ofDigitChars 10 (text.fraction.take places) (ofDigitChars 10 text.whole 0) := by
  rw [upTo, Nat.ofDigitChars_append]

theorem whole_fits (room : text.upTo 0 < mantissaBound) :
    ofDigitChars 10 text.whole 0 < mantissaBound := by
  rwa [upTo_eq, List.take_zero, Nat.ofDigitChars_nil] at room

/-- The digits after the point, as far as there is room for them, are read after those before it. -/
theorem readUnsigned_fraction (room : text.upTo 0 < mantissaBound) (seen : Bool) :
    readUnsigned false (ofDigitChars 10 text.whole 0) 0 false seen ('.' :: text.fraction) =
      readUnsigned false (text.upTo text.places) text.places true
        (seen || !(text.fraction.take text.places).isEmpty) (text.fraction.drop text.places) := by
  have inScale : text.places ≤ maxScale := text.places_le.trans (Nat.min_le_left _ _)
  have fits := upTo_places room
  have fractionDigits := text.fractionDigits
  have length : (text.fraction.take text.places).length = text.places := by
    rw [List.length_take, Nat.min_eq_left (text.places_le.trans (Nat.min_le_right _ _))]
  have afterPoint : readUnsigned false (ofDigitChars 10 text.whole 0) 0 false seen
    ('.' :: text.fraction) =
      readUnsigned false (ofDigitChars 10 text.whole 0) 0 true seen
        (text.fraction.take text.places ++ text.fraction.drop text.places) := by
    rw [List.take_append_drop, readUnsigned, if_neg (by decide),
      if_neg (by decide), if_pos (by decide)]
  rw [← List.take_append_drop text.places text.fraction, List.all_append, Bool.and_eq_true]
    at fractionDigits
  rw [upTo_eq] at fits
  rw [afterPoint, readUnsigned_append fractionDigits.1 fits
    (fun _ => by rw [length, zero_add]; exact inScale), length, if_pos rfl, zero_add, ← upTo_eq]

/-- The text is read up to the last place for which there is room; the next digit, if there is one,
rounds. -/
theorem readUnsigned_unsigned (room : text.upTo 0 < mantissaBound) :
    readUnsigned false 0 0 false false text.unsigned =
      match text.fraction.drop text.places with
      | [] => ofParts? false (text.upTo text.places) text.places
      | digit :: rest =>
          roundLast false (text.upTo text.places) text.places (Text.digitValue digit) rest := by
  rw [unsigned, readUnsigned_append text.wholeDigits (whole_fits room) (by simp)]
  cases pointed : text.point with
  | false =>
      have integral : text.fraction = [] := by
        by_contra fractional
        rw [text.pointed fractional] at pointed
        cases pointed
      have some : text.whole ≠ [] := by simpa [integral] using text.nonempty
      have seen : (false || !text.whole.isEmpty) = true := by simpa using some
      have none : text.places = 0 := by
        simpa [integral] using text.places_le.trans (Nat.min_le_right _ _)
      rw [seen, upTo_eq, none, integral]
      rfl
  | true =>
      simp only [if_true, Bool.false_eq_true, if_false]
      rw [readUnsigned_fraction room]
      cases cut : text.fraction.drop text.places with
      | nil =>
          have all : text.fraction.take text.places = text.fraction := by
            rw [← List.append_nil (text.fraction.take text.places), ← cut, List.take_append_drop]
          have seen : ((false || !text.whole.isEmpty) ||
              !(text.fraction.take text.places).isEmpty) = true := by
            have some := text.nonempty
            rw [Ne, List.append_eq_nil_iff, ← List.isEmpty_iff, ← List.isEmpty_iff] at some
            rw [all]
            cases whole : text.whole.isEmpty <;> cases fraction : text.fraction.isEmpty <;> simp_all
          rw [seen]
          rfl
      | cons digit rest =>
          have restDigits := drop_digits text text.places
          rw [cut, List.all_cons, Bool.and_eq_true] at restDigits
          refine readUnsigned_full restDigits.1 rest ?_
          rcases Nat.eq_or_lt_of_le (text.places_le.trans (Nat.min_le_left _ _) : text.places ≤
            maxScale) with last | more
          · exact .inl last
          · exact .inr
              (upTo_next cut ▸ le_upTo_of_places_lt (Nat.lt_succ_self _)
                (Nat.le_min.mpr ⟨more, lt_of_drop cut⟩))

theorem unsigned_givesAmount (text : PlainText) (amount : Amount) :
    GivesAmount (readUnsigned false 0 0 false false text.unsigned) amount ↔
      amount.value.toRat = text.roundedSize := by
  have inScale : text.places ≤ 28 := text.places_le.trans (Nat.min_le_left _ _)
  by_cases room : text.upTo 0 < mantissaBound
  · have fits := upTo_places room
    rw [readUnsigned_unsigned room]
    cases cut : text.fraction.drop text.places with
    | nil =>
        have exact : ⌊text.size * 10 ^ text.places + 1 / 2⌋₊ = text.upTo text.places := by
          rw [size_split (text.places_le.trans (Nat.min_le_right _ _)), cut,
            Nat.floor_eq_iff (by positivity)]
          constructor <;> norm_num [Nat.ofDigitChars_nil]
        rw [roundedSize, exact]
        exact ofParts?_givesAmount fits inScale
    | cons digit rest =>
        have restDigits := drop_digits text text.places
        rw [cut, List.all_cons, Bool.and_eq_true] at restDigits
        rw [roundedSize, floor_size cut]
        exact roundLast_givesAmount restDigits.2 fits inScale
  · have wide := not_lt.mp room
    have large : (mantissaBound : ℚ) ≤ text.roundedSize := by
      apply le_roundedSize
      have least := text.upTo_le_size (Nat.zero_le text.fraction.length)
      rw [pow_zero, mul_one] at least
      exact (Nat.cast_le.mpr wide).trans least
    rw [upTo, List.take_zero, List.append_nil] at wide
    rw [unsigned, readUnsigned_wide text.wholeDigits wide (by decide)]
    apply iff_of_false
    · rintro ⟨value, found, same⟩
      cases found
    · intro same
      have bounded := amount.toRat_le
      have most : (10 : ℚ) ^ 16 ≤ mantissaBound := by
        exact_mod_cast (by decide : 10 ^ 16 ≤ mantissaBound)
      linarith [maxMoney_lt]

/-!
## Signs
-/

theorem mem_unsigned (text : PlainText) {char : Char} (member : char ∈ text.unsigned) :
    char.isDigit = true ∨ char = '.' := by
  rw [unsigned, List.mem_append] at member
  rcases member with whole | fraction
  · exact .inl (List.all_eq_true.mp text.wholeDigits char whole)
  · cases pointed : text.point with
    | false => simp [pointed] at fraction
    | true =>
        rw [pointed, if_pos rfl, List.mem_cons] at fraction
        exact fraction.symm.imp_left (List.all_eq_true.mp text.fractionDigits char)

theorem mem_chars (text : PlainText) {char : Char} (member : char ∈ text.chars) :
    char.isDigit = true ∨ char = '.' ∨ char = '-' ∨ char = '+' := by
  rw [chars, List.mem_append] at member
  rcases member with sign | unsigned
  · cases isSign : text.sign <;> simp_all [Sign.text]
  · exact (text.mem_unsigned unsigned).imp_right .inl

theorem readPlain_chars (text : PlainText) :
    readPlain text.chars = readUnsigned (text.sign == .minus) 0 0 false false text.unsigned := by
  cases sign : text.sign with
  | minus => rw [chars, sign]; rfl
  | plus => rw [chars, sign]; rfl
  | none =>
      have unsigned : text.chars = text.unsigned := by
        rw [chars, sign]
        rfl
      rw [unsigned, readPlain]
      · rfl
      all_goals
        rintro rest signed
        have first := text.mem_unsigned (signed ▸ List.mem_cons_self)
        revert first
        decide

/-- A plain text has no mark of a power, so that it is read once. -/
theorem read_chars (text : PlainText) : read text.chars = readPlain text.chars := by
  have plain : text.chars.dropWhile (fun char => !(char == 'e' || char == 'E')) = [] := by
    rw [List.dropWhile_eq_nil_iff]
    intro char member
    rcases text.mem_chars member with digit | rfl | rfl | rfl
    · rw [Bool.not_eq_true', Bool.or_eq_false_iff, beq_eq_false_iff_ne, beq_eq_false_iff_ne]
      constructor <;> (rintro rfl; exact absurd digit (by decide))
    all_goals decide
  have scientific : readScientific text.chars = none := by
    rw [readScientific.eq_def]
    simp only [plain]
  rw [read, scientific]
  cases readPlain text.chars <;> rfl

/-- A plain text of any length is read as the amount that its rounded number is. -/
theorem read_givesAmount (text : PlainText) (amount : Amount) :
    GivesAmount (read text.chars) amount ↔ amount.value.toRat = text.rounded := by
  rw [read_chars, readPlain_chars]
  cases sign : text.sign with
  | minus =>
      have negative : text.rounded ≤ 0 := by
        rw [rounded, sign, Sign.factor, neg_one_mul, neg_nonpos]
        exact text.roundedSize_nonneg
      apply iff_of_false
      · rintro ⟨value, found, same⟩
        linarith [amount.toRat_pos, readUnsigned_negative found]
      · intro same
        linarith [amount.toRat_pos]
  | plus =>
      rw [rounded, sign, Sign.factor, one_mul]
      exact unsigned_givesAmount text amount
  | none =>
      rw [rounded, sign, Sign.factor, one_mul]
      exact unsigned_givesAmount text amount

end PlainText

end Passbook.Decimal
