import Passbook.Proofs.Json.Numeral

/-!
How plain numbers are found in a document, as numbers and as the content of strings.
-/

set_option autoImplicit false

namespace Passbook.Json

variable {digits text : List Char} {source rest : Source} {isNegative : Bool}

/-- Whether what comes next cannot belong to a plain number. -/
def Ends (source : Source) : Prop :=
  ∀ char rest, source = some char :: rest → char.isDigit = false ∧ char ≠ '.' ∧
    char ≠ 'e' ∧ char ≠ 'E'

/-!
## Numbers
-/

theorem readDigits_append (isDigits : digits.all Char.isDigit)
    (ends : ∀ symbol more, rest = symbol :: more → isDigit symbol = false) :
    readDigits (Source.ofChars digits ++ rest) = (digits, rest) := by
  have all : ∀ symbol ∈ Source.ofChars digits, isDigit symbol = true := by
    intro symbol member
    obtain ⟨char, inside, rfl⟩ := List.mem_map.mp member
    exact List.all_eq_true.mp isDigits char inside
  have none : rest.takeWhile isDigit = [] ∧ rest.dropWhile isDigit = rest := by
    cases rest with
    | nil => exact ⟨rfl, rfl⟩
    | cons symbol more => simp [ends symbol more rfl]
  have content : (Source.ofChars digits).filterMap id = digits := by
    simp [Source.ofChars, List.filterMap_map]
  rw [readDigits, List.takeWhile_append_of_pos all, List.dropWhile_append_of_pos all, none.1,
    none.2, List.append_nil, content]

theorem Ends.isDigit (ends : Ends rest) :
    ∀ symbol more, rest = symbol :: more → isDigit symbol = false := by
  rintro (_ | char) more rfl
  · rfl
  · exact (ends char more rfl).1

theorem Ends.readPower (ends : Ends rest) : readPower rest = .ok (none, rest) := by
  match rest with
  | [] => rfl
  | none :: more => rfl
  | some char :: more =>
      obtain ⟨-, -, lower, upper⟩ := ends char more rfl
      simp only [Json.readPower, lower, upper, or_self, if_false]

theorem Ends.readFraction (ends : Ends rest) : readFraction rest = .ok (false, [], rest) := by
  match rest with
  | [] => rfl
  | none :: more => rfl
  | some char :: more =>
      obtain ⟨-, point, -⟩ := ends char more rfl
      rw [Json.readFraction]
      exact fun _ same => point (Option.some.inj (List.cons.inj same).1)

theorem readFraction_point (isDigits : digits.all Char.isDigit) (nonempty : digits ≠ [])
    (ends : Ends rest) :
    readFraction (some '.' :: (Source.ofChars digits ++ rest)) = .ok (true, digits, rest) := by
  have some : digits.isEmpty = false := by simpa using nonempty
  simp only [readFraction, readDigits_append isDigits ends.isDigit, some,
    Bool.false_eq_true, if_false]

/-- Once the whole part is read, fraction and exponent decide. -/
theorem readNumberText_whole (numeral : Numeral) {after next : Source} {hasFraction : Bool}
    {fraction : List Char} {power : Option Int}
    (other : ∀ symbol more, after = symbol :: more → isDigit symbol = false)
    (readFraction : readFraction after = .ok (hasFraction, fraction, next))
    (readPower : readPower next = .ok (power, rest)) :
    readNumberText isNegative (Source.ofChars numeral.whole ++ after) =
      .ok (⟨isNegative, numeral.whole, fraction, hasFraction, power⟩, rest) := by
  simp only [readNumberText, readDigits_append numeral.wholeDigits other]
  split
  · next empty => exact absurd empty numeral.nonempty
  · next digit more zero =>
      have alone := numeral.leading (by rw [zero]; rfl)
      rw [zero] at alone
      cases alone
  · simp only [bind, Except.bind, readFraction, readPower]
    rfl

theorem readNumberText_numeral (numeral : Numeral) (ends : Ends rest) :
    readNumberText false (Source.ofChars numeral.text ++ rest) = .ok (numeral.parts, rest) := by
  rw [Numeral.text, Numeral.parts]
  split
  · next integral =>
      rw [readNumberText_whole numeral ends.isDigit ends.readFraction ends.readPower, integral]
      rfl
  · next fractional =>
      have point : (!numeral.fraction.isEmpty) = true := by simpa using fractional
      have split : Source.ofChars (numeral.whole ++ '.' :: numeral.fraction) ++ rest =
          Source.ofChars numeral.whole ++ some '.' ::
            (Source.ofChars numeral.fraction ++ rest) := by
        simp [Source.ofChars]
      rw [split, point]
      exact readNumberText_whole numeral (by rintro symbol more ⟨rfl, -⟩; rfl)
        (readFraction_point numeral.fractionDigits fractional ends) ends.readPower

theorem readDigits_sound (source : Source) :
    source = Source.ofChars (readDigits source).1 ++ (readDigits source).2 ∧
      (readDigits source).1.all Char.isDigit = true := by
  induction source with
  | nil => exact ⟨rfl, rfl⟩
  | cons symbol source ih =>
      cases digit : isDigit symbol with
      | false => simp [readDigits, digit, Source.ofChars]
      | true =>
          obtain ⟨char, rfl⟩ : ∃ char, symbol = some char := by
            cases symbol with
            | none => cases digit
            | some char => exact ⟨char, rfl⟩
          have step : readDigits (some char :: source) =
              (char :: (readDigits source).1, (readDigits source).2) := by
            simp [readDigits, digit]
          rw [step]
          refine ⟨?_, by rw [List.all_cons, ih.2, Bool.and_true]; exact digit⟩
          exact congrArg (some char :: ·) ih.1

theorem readFraction_sound {hasFraction : Bool} {fraction : List Char}
    (read : readFraction source = .ok (hasFraction, fraction, rest)) :
    hasFraction = !fraction.isEmpty ∧ fraction.all Char.isDigit = true ∧
      source = Source.ofChars (if fraction = [] then [] else '.' :: fraction) ++ rest := by
  rw [readFraction.eq_def] at read
  split at read
  · next after =>
      obtain ⟨split, isDigits⟩ := readDigits_sound after
      simp only at read
      split at read
      · cases read
      · next some =>
          cases read
          have nonempty : (readDigits after).1 ≠ [] := by simpa using some
          refine ⟨by simpa using nonempty, isDigits, ?_⟩
          rw [if_neg nonempty]
          exact congrArg (Option.some '.' :: ·) split
  · cases read
    exact ⟨rfl, rfl, rfl⟩

theorem readPower_sound (read : readPower source = .ok (none, rest)) : source = rest := by
  rw [readPower.eq_def] at read
  split at read
  · split at read
    · simp only at read
      split at read <;> split at read <;> cases read
    · cases read
      rfl
  · cases read
    rfl

/-- A number without sign and exponent is a plain number in the sense of `Numeral`. -/
theorem Numeral.of_read {parts : NumberText}
    (read : readNumberText false source = .ok (parts, rest)) (plain : parts.power = none) :
    ∃ numeral : Numeral, parts = numeral.parts ∧ source = Source.ofChars numeral.text ++ rest := by
  obtain ⟨wholeSplit, wholeDigits⟩ := readDigits_sound source
  rw [readNumberText] at read
  simp only at read
  generalize readDigits source = found at read wholeSplit wholeDigits
  obtain ⟨whole, after⟩ := found
  simp only at read wholeSplit wholeDigits
  split at read
  · cases read
  · cases read
  · next nonempty leading =>
      cases fraction : readFraction after with
      | error fault =>
          rw [fraction] at read
          cases read
      | ok found =>
          obtain ⟨hasFraction, digits, next⟩ := found
          obtain ⟨point, fractionDigits, split⟩ := readFraction_sound fraction
          cases power : readPower next with
          | error fault =>
              simp only [fraction, power, bind, Except.bind] at read
              cases read
          | ok found =>
              simp only [fraction, power, bind, Except.bind, pure, Except.pure, Except.ok.injEq,
                Prod.mk.injEq] at read
              obtain ⟨rfl, rfl⟩ := read
              obtain ⟨exponent, rest⟩ := found
              cases plain
              have same := readPower_sound power
              subst same
              have alone : whole.head? = some '0' → whole = ['0'] := by
                intro zero
                obtain ⟨more, head⟩ := List.head?_eq_some_iff.mp zero
                cases more with
                | nil => exact head
                | cons second more => exact absurd head (leading second more)
              refine ⟨⟨whole, digits, wholeDigits, fractionDigits, nonempty, alone⟩,
                by rw [parts, point], ?_⟩
              rw [text, wholeSplit, split]
              split_ifs <;> simp [Source.ofChars]

theorem Numeral.text_head (numeral : Numeral) :
    ∃ first more, numeral.text = first :: more ∧ first.isDigit = true := by
  obtain ⟨first, more, whole⟩ := List.exists_cons_of_ne_nil numeral.nonempty
  have isDigits := numeral.wholeDigits
  rw [whole, List.all_cons, Bool.and_eq_true] at isDigits
  rw [text]
  split
  · exact ⟨first, more, whole, isDigits.1⟩
  · exact ⟨first, more ++ '.' :: numeral.fraction, by rw [whole, List.cons_append], isDigits.1⟩

theorem skipSpaces_of_isDigit {first : Char} (digit : first.isDigit = true) (source : Source) :
    skipSpaces (some first :: source) = some first :: source := by
  have noSpace : isSpace (some first) = false := by
    cases blank : isSpace (some first) with
    | false => rfl
    | true =>
        simp only [isSpace, Bool.or_eq_true, beq_iff_eq, Option.some.injEq] at blank
        rcases blank with ((rfl | rfl) | rfl) | rfl <;> cases digit
  simp only [skipSpaces, List.dropWhile_cons, noSpace, Bool.false_eq_true, if_false]

theorem readHead_space (source : Source) : readHead (some ' ' :: source) = readHead source := rfl

theorem readHead_digit {first : Char} (digit : first.isDigit = true) (source : Source) :
    readHead (some first :: source) = (readNumber false (some first :: source)).map
      fun (number, rest) => (.number number, rest) := by
  rw [readHead, skipSpaces_of_isDigit digit]
  simp only
  split
  all_goals first | cases digit | rfl

theorem readHead_numeral {numeral : Numeral} {number : Number}
    (value : numeral.parts.value? = some number) (ends : Ends rest) :
    readHead (Source.ofChars numeral.text ++ rest) = .ok (.number number, rest) := by
  have read : readNumber false (Source.ofChars numeral.text ++ rest) = .ok (number, rest) := by
    simp only [readNumber, bind, Except.bind, readNumberText_numeral numeral ends, value]
    rfl
  obtain ⟨first, more, text, isDigit⟩ := numeral.text_head
  rw [text] at read ⊢
  refine (readHead_digit isDigit (Source.ofChars more ++ rest)).trans ?_
  change (readNumber false (Source.ofChars (first :: more) ++ rest)).map _ = _
  rw [read]
  rfl

/-!
## Strings
-/

/-- Whether a character stands for itself in a string. -/
def isOrdinary (char : Char) : Bool := char != '"' && char != '\\' && 0x20 ≤ char.toNat

theorem readContent_cons {char : Char} (ordinary : isOrdinary char) (read : List Char)
    (source : Source) :
    readContent none read (some char :: source) = readContent none (char :: read) source := by
  simp only [isOrdinary, Bool.and_eq_true, bne_iff_ne, decide_eq_true_eq] at ordinary
  rw [readContent]
  · simp [ordinary]
  · exact fun _ _ _ _ _ _ same => ordinary.1.2 same
  · exact ordinary.1.1
  · exact fun _ _ _ same => ordinary.1.2 same

theorem readContent_ordinary (ordinary : text.all isOrdinary) (read : List Char) :
    readContent none read (Source.ofChars text ++ some '"' :: rest) =
      .ok (read.reverse ++ text, rest) := by
  induction text generalizing read with
  | nil => simp [Source.ofChars, readContent]
  | cons char text ih =>
      rw [List.all_cons, Bool.and_eq_true] at ordinary
      have step := readContent_cons ordinary.1 read (Source.ofChars text ++ some '"' :: rest)
      change readContent none read (some char :: (Source.ofChars text ++ some '"' :: rest)) = _
      rw [step, ih ordinary.2]
      simp

theorem readHead_text (ordinary : text.all isOrdinary) :
    readHead (some '"' :: (Source.ofChars text ++ some '"' :: rest)) = .ok (.text text, rest) := by
  change (readString (Source.ofChars text ++ some '"' :: rest)).map _ = _
  rw [readString, readContent_ordinary ordinary]
  rfl

theorem isOrdinary_of_isDigit {char : Char} (digit : char.isDigit = true) :
    isOrdinary char = true := by
  have bounds := Text.isDigit_bounds digit
  simp only [isOrdinary, Bool.and_eq_true, bne_iff_ne, decide_eq_true_eq]
  refine ⟨⟨?_, ?_⟩, by omega⟩ <;> rintro rfl <;> cases digit

theorem Numeral.ordinary (numeral : Numeral) : numeral.text.all isOrdinary = true :=
  numeral.all_text isOrdinary_of_isDigit (by decide)

end Passbook.Json
