import Mathlib.Data.List.TakeWhile
import Passbook.Proofs.Text.Digits
import Passbook.Proofs.Time.Calendar
import Passbook.Time.Text

/-!
Timestamps survive being written and read, the first and the last of them and leap seconds included.
-/

set_option autoImplicit false

namespace Passbook.Time

open Text (digitsValue trimStart digitsValue_eq isBlank isDigit_bounds)

variable {digits rest : List Char} {char : Char} {width number : Nat}

/-!
## Numbers of a fixed width
-/

theorem paddedTo_isDigit (width number : Nat) : (paddedTo width number).all Char.isDigit = true :=
  Text.padded_isDigit _ number

theorem length_paddedTo (positive : 0 < width) (small : number < 10 ^ width) :
    (paddedTo width number).length = width := by
  have short := (Nat.length_toDigits_le_iff (by decide : 1 < 10) positive).mpr small
  rw [paddedTo, List.length_append, List.length_replicate]
  omega

theorem digitsValue_paddedTo (width number : Nat) :
    digitsValue (paddedTo width number) = number := by
  rw [digitsValue_eq, paddedTo, Text.ofDigitChars_padded]

theorem paddedTo_ne_nil (width number : Nat) : paddedTo width number ≠ [] :=
  List.append_ne_nil_of_right_ne_nil _ Nat.toDigits_ne_nil

theorem isBlank_of_isDigit (digit : char.isDigit = true) : isBlank char = false := by
  have bounds := isDigit_bounds digit
  simp only [isBlank, Bool.or_eq_false_iff, Bool.and_eq_false_iff, decide_eq_false_iff_not,
    beq_eq_false_iff_ne]
  omega

theorem trimStart_digits (isDigit : digits.all Char.isDigit = true) (nonempty : digits ≠ [])
    (rest : List Char) :
    trimStart (digits ++ rest) = digits ++ rest := by
  obtain ⟨digit, more, rfl⟩ := List.exists_cons_of_ne_nil nonempty
  rw [List.all_cons, Bool.and_eq_true] at isDigit
  exact Text.trimStart_cons_of_not_blank (isBlank_of_isDigit isDigit.1)

theorem readNumber_fixed (isDigit : digits.all Char.isDigit = true) (nonempty : digits ≠ [])
    (rest : List Char) :
    readNumber (some digits.length) (digits ++ rest) = .ok (digitsValue digits, rest) := by
  have all : digits.takeWhile Char.isDigit = digits :=
    List.takeWhile_eq_self_iff.mpr (List.all_eq_true.mp isDigit)
  obtain ⟨digit, more, rfl⟩ := List.exists_cons_of_ne_nil nonempty
  simp only [readNumber, List.take_left, all]
  simp

/-- Without a width all digits are read, up to something else. -/
theorem readNumber_all (isDigit : digits.all Char.isDigit = true) (nonempty : digits ≠ [])
    (other : char.isDigit = false) (rest : List Char) :
    readNumber none (digits ++ char :: rest) = .ok (digitsValue digits, char :: rest) := by
  have all : (digits ++ char :: rest).takeWhile Char.isDigit = digits := by
    rw [List.takeWhile_append_of_pos (List.all_eq_true.mp isDigit)]
    simp [other]
  obtain ⟨digit, more, rfl⟩ := List.exists_cons_of_ne_nil nonempty
  simp only [readNumber, all]
  simp

theorem readField_paddedTo {least greatest : Nat} (lower : least ≤ number)
    (upper : number ≤ greatest) (small : greatest < 100) (rest : List Char) :
    readField least greatest (paddedTo 2 number ++ rest) = .ok (number, rest) := by
  have length : (paddedTo 2 number).length = 2 := length_paddedTo (by decide) (by omega)
  have read := readNumber_fixed (paddedTo_isDigit 2 number) (paddedTo_ne_nil 2 number) rest
  rw [length, digitsValue_paddedTo] at read
  rw [readField, trimStart_digits (paddedTo_isDigit 2 number) (paddedTo_ne_nil 2 number), read]
  simp only [bind, Except.bind, lower, upper, and_self, if_true]

theorem readMark_cons (solid : isBlank char = false) (rest : List Char) :
    readMark char (char :: rest) = .ok rest := by
  rw [readMark, Text.trimStart_cons_of_not_blank solid]
  exact if_pos rfl

/-!
## Years and fractions
-/

theorem readYear_unsigned (isDigit : digits.all Char.isDigit = true) (length : digits.length = 4)
    (rest : List Char) :
    readYear (digits ++ rest) = .ok (digitsValue digits, rest) := by
  have nonempty : digits ≠ [] := List.ne_nil_of_length_eq_add_one length
  have small : digitsValue digits < 10 ^ 4 := by
    rw [digitsValue_eq, ← length]
    exact Text.ofDigitChars_lt isDigit
  have read := readNumber_fixed isDigit nonempty rest
  rw [length] at read
  have range : -(twoTo 31 : Int) ≤ digitsValue digits ∧ (digitsValue digits : Int) < twoTo 31 := by
    have bound : twoTo 31 = 2147483648 := rfl
    omega
  rw [readYear, trimStart_digits isDigit nonempty]
  split
  · next sign =>
      obtain ⟨digit, more, rfl⟩ := List.exists_cons_of_ne_nil nonempty
      cases sign
      cases isDigit
  · next sign =>
      obtain ⟨digit, more, rfl⟩ := List.exists_cons_of_ne_nil nonempty
      cases sign
      cases isDigit
  · simp only [read, Except.map, bind, Except.bind, range, and_self, if_true]

theorem readYear_yearText {year : Int} (least : -(twoTo 31 : Int) ≤ year)
    (greatest : year < twoTo 31) (rest : List Char) :
    readYear (yearText year ++ '-' :: rest) = .ok (year, '-' :: rest) := by
  rw [yearText]
  by_cases plain : 0 ≤ year ∧ year ≤ 9999
  · have length : (paddedTo 4 year.toNat).length = 4 := length_paddedTo (by decide) (by omega)
    rw [if_pos plain, readYear_unsigned (paddedTo_isDigit 4 year.toNat) length,
      digitsValue_paddedTo, Int.toNat_of_nonneg plain.1]
  · have read :=
      readNumber_all (paddedTo_isDigit 4 year.natAbs) (paddedTo_ne_nil 4 year.natAbs)
        (by decide : '-'.isDigit = false) rest
    rw [digitsValue_paddedTo] at read
    rw [if_neg plain, List.cons_append, readYear]
    by_cases before : year < 0
    · have same : -(year.natAbs : Int) = year := by omega
      rw [if_pos before, Text.trimStart_cons_of_not_blank (by decide)]
      simp only [read, Except.map, bind, Except.bind, same, least, greatest, and_self, if_true]
    · have same : (year.natAbs : Int) = year := by omega
      rw [if_neg before, Text.trimStart_cons_of_not_blank (by decide)]
      simp only [read, Except.map, bind, Except.bind, same, least, greatest, and_self, if_true]

theorem readFraction_point (isDigit : digits.all Char.isDigit = true) (nonempty : digits ≠ [])
    (few : digits.length ≤ 9) (other : char.isDigit = false) :
    readFraction ('.' :: (digits ++ char :: rest)) =
      .ok (digitsValue digits * tenTo (9 - digits.length), char :: rest) := by
  have taken : ((digits ++ char :: rest).take 9).takeWhile Char.isDigit = digits := by
    rw [List.take_append, List.take_of_length_le few,
      List.takeWhile_append_of_pos (List.all_eq_true.mp isDigit)]
    obtain ⟨left, split⟩ : ∃ left, 9 = digits.length + left := ⟨9 - digits.length, by omega⟩
    rw [split, Nat.add_sub_cancel_left]
    cases left <;> simp [other]
  have dropped : (char :: rest).dropWhile Char.isDigit = char :: rest := by simp [other]
  obtain ⟨digit, more, rfl⟩ := List.exists_cons_of_ne_nil nonempty
  simp only [readFraction, taken, List.drop_left, dropped]
  rfl

theorem readFraction_fractionText {nanos : Nat} (small : nanos < nanosPerSecond)
    (other : char.isDigit = false) (noPoint : char ≠ '.') (rest : List Char) :
    readFraction (fractionText nanos ++ char :: rest) = .ok (nanos, char :: rest) := by
  rw [nanosPerSecond] at small
  have read (width number : Nat) (positive : 0 < width) (few : width ≤ 9)
    (fits : number < 10 ^ width) :
      readFraction ('.' :: paddedTo width number ++ char :: rest) =
        .ok (number * tenTo (9 - width), char :: rest) := by
    have length := length_paddedTo positive fits
    rw [List.cons_append, readFraction_point (paddedTo_isDigit width number)
      (paddedTo_ne_nil width number) (by omega) other, digitsValue_paddedTo, length]
  rw [fractionText]
  split
  · next zero =>
      rw [zero, List.nil_append, readFraction]
      intro text same
      exact noPoint (List.cons.inj same).1
  · split
    · next millis =>
        have exact : nanos / 1000000 * tenTo 6 = nanos := by
          rw [show tenTo 6 = 1000000 from rfl]
          omega
        rw [read 3 (nanos / 1000000) (by decide) (by decide) (by omega), exact]
    · split
      · next micros =>
          have exact : nanos / 1000 * tenTo 3 = nanos := by
            rw [show tenTo 3 = 1000 from rfl]
            omega
          rw [read 6 (nanos / 1000) (by decide) (by decide) (by omega), exact]
      · have exact : nanos * tenTo 0 = nanos := Nat.mul_one nanos
        rw [read 9 nanos (by decide) (by decide) (by omega), exact]

/-!
## Timestamps
-/

theorem Date.bounds_of_isValid {date : Date} (valid : date.isValid = true) :
    (1 ≤ date.month ∧ date.month ≤ 12) ∧ 1 ≤ date.day ∧ date.day ≤ 31 := by
  simp only [Date.isValid, Bool.and_eq_true, decide_eq_true_eq] at valid
  obtain ⟨positive, inMonth⟩ := valid
  rw [daysInMonth.eq_def] at inMonth
  split at inMonth
  all_goals try split at inMonth
  all_goals omega

namespace Timestamp

variable (time : Timestamp)

theorem make?_self : make? time.seconds time.nanos = some time := by
  rw [make?, dif_pos time.nanos_lt, dif_pos time.leap, dif_pos ⟨time.seconds_ge, time.seconds_le⟩]

theorem year_bounds : firstYear ≤ time.date.year ∧ time.date.year ≤ lastYear := by
  have least := time.seconds_ge
  have greatest := time.seconds_le
  have before := Date.year_lt_iff (time.seconds / secondsPerDay) firstYear
  have after := Date.year_lt_iff (time.seconds / secondsPerDay) (lastYear + 1)
  rw [firstSecond, secondsPerDay] at least
  rw [lastSecond, secondsPerDay] at greatest
  rw [secondsPerDay] at before after
  simp only [date, secondsPerDay]
  omega

theorem secondOfDay_lt : time.secondOfDay < 86400 := by
  rw [secondOfDay, secondsPerDay]
  omega

theorem seconds_eq : time.date.toDayNumber * secondsPerDay + time.secondOfDay = time.seconds := by
  rw [date, Date.toDayNumber_ofDayNumber, secondOfDay, secondsPerDay]
  omega

theorem secondOfDay_of_leap (leap : nanosPerSecond ≤ time.nanos) : time.secondOfDay % 60 = 59 := by
  have last := time.leap leap
  rw [secondOfDay, secondsPerDay]
  omega

theorem toChars_eq {leap : Nat} (isLeap : (if nanosPerSecond ≤ time.nanos then 1 else 0) = leap) :
    time.toChars = yearText time.date.year ++ '-' ::
      (paddedTo 2 time.date.month ++ '-' ::
        (paddedTo 2 time.date.day ++ 'T' ::
          (paddedTo 2 (time.secondOfDay / 3600) ++ ':' ::
            (paddedTo 2 (time.secondOfDay / 60 % 60) ++ ':' ::
              (paddedTo 2 (time.secondOfDay % 60 + leap) ++
                (fractionText (time.nanos - leap * nanosPerSecond) ++ ['Z'])))))) := by
  simp only [toChars, isLeap, List.append_assoc, List.cons_append]

theorem read_of_parts {year : Int} {month day hour minute second fraction : Nat}
    {text afterYear atMonth afterMonth atDay atHour afterHour atMinute afterMinute atSecond
      afterSecond : List Char}
    (readsYear : readYear text = .ok (year, afterYear))
    (dash : readMark '-' afterYear = .ok atMonth)
    (readsMonth : readField 1 12 atMonth = .ok (month, afterMonth))
    (secondDash : readMark '-' afterMonth = .ok atDay)
    (readsDay : readField 1 31 atDay = .ok (day, 'T' :: atHour))
    (readsHour : readField 0 23 atHour = .ok (hour, afterHour))
    (colon : readMark ':' afterHour = .ok atMinute)
    (readsMinute : readField 0 59 atMinute = .ok (minute, afterMinute))
    (secondColon : readMark ':' afterMinute = .ok atSecond)
    (readsSecond : readField 0 60 atSecond = .ok (second, afterSecond))
    (readsFraction : readFraction afterSecond = .ok (fraction, ['Z']))
    (valid : Date.isValid ⟨year, month, day⟩ = true) (inRange : firstYear ≤ year ∧ year ≤ lastYear)
    {leap : Nat} (isLeap : (if second = 60 then 1 else 0) = leap)
    (made : make? (Date.toDayNumber ⟨year, month, day⟩ * secondsPerDay + hour * 3600 + minute * 60 +
      ((second - leap : Nat) : Int)) (fraction + leap * nanosPerSecond) = some time) :
    Timestamp.read text = .ok time := by
  have offset : readOffset (trimStart ['Z']) = .ok (0, []) := rfl
  have nothing : trimStart [] = [] := rfl
  simp only [Timestamp.read, readsYear, dash, readsMonth, secondDash, readsDay, readsHour, colon,
    readsMinute, secondColon, readsSecond, readsFraction, offset, nothing, bind, Except.bind, valid,
    not_lt.mpr inRange.1, not_lt.mpr inRange.2, isLeap, made, true_or, if_true,
    Int.natAbs_zero, Int.sub_zero]
  rfl

theorem read_toChars : Timestamp.read time.toChars = .ok time := by
  have valid : time.date.isValid = true := Date.isValid_ofDayNumber (time.seconds / secondsPerDay)
  obtain ⟨⟨monthPositive, inYear⟩, dayPositive, inMonth⟩ := Date.bounds_of_isValid valid
  obtain ⟨notBefore, notAfter⟩ := time.year_bounds
  have inDay := time.secondOfDay_lt
  have whole := time.seconds_eq
  -- A leap second is written as second 60 with the surplus taken off its nanoseconds; reading takes
  -- both back.
  obtain ⟨leap, isLeap, inMinute⟩ : ∃ leap, (if nanosPerSecond ≤ time.nanos then 1 else 0) = leap ∧
      (leap = 0 ∧ time.nanos < nanosPerSecond ∨ leap = 1 ∧ nanosPerSecond ≤ time.nanos ∧
        time.secondOfDay % 60 = 59) := by
    refine ⟨_, rfl, ?_⟩
    split
    · next leap => exact .inr ⟨rfl, leap, time.secondOfDay_of_leap leap⟩
    · next usual => exact .inl ⟨rfl, not_le.mp usual⟩
  have split : time.nanos - leap * nanosPerSecond < nanosPerSecond ∧
      time.nanos - leap * nanosPerSecond + leap * nanosPerSecond = time.nanos := by
    have bound := time.nanos_lt
    rcases inMinute with ⟨rfl, usual⟩ | ⟨rfl, added, -⟩ <;> omega
  have again : (if time.secondOfDay % 60 + leap = 60 then 1 else 0) = leap := by
    split <;> omega
  have seconds : time.date.toDayNumber * secondsPerDay + (time.secondOfDay / 3600 : Nat) * 3600 +
      (time.secondOfDay / 60 % 60 : Nat) * 60 +
      ((time.secondOfDay % 60 + leap - leap : Nat) : Int) = time.seconds := by
    omega
  have year :=
    readYear_yearText (le_trans (by decide) notBefore) (lt_of_le_of_lt notAfter (by decide))
  have month := readField_paddedTo monthPositive inYear (by decide)
  have day := readField_paddedTo dayPositive inMonth (by decide)
  have hour :=
    readField_paddedTo (Nat.zero_le (time.secondOfDay / 3600)) (by omega : _ ≤ 23) (by decide)
  have minute :=
    readField_paddedTo (Nat.zero_le (time.secondOfDay / 60 % 60)) (by omega : _ ≤ 59) (by decide)
  have second :=
    readField_paddedTo (Nat.zero_le (time.secondOfDay % 60 + leap)) (by omega : _ ≤ 60) (by decide)
  have fraction :=
    readFraction_fractionText split.1 (by decide : 'Z'.isDigit = false) (by decide) []
  rw [toChars_eq time isLeap]
  refine read_of_parts time (year _) (readMark_cons rfl _) (month _) (readMark_cons rfl _) (day _)
    (hour _) (readMark_cons rfl _) (minute _) (readMark_cons rfl _) (second _) fraction valid
    ⟨notBefore, notAfter⟩ again ?_
  rw [split.2, seconds]
  exact time.make?_self

end Timestamp

end Passbook.Time
