import Passbook.Json.Record
import Passbook.Json.Writer
import Passbook.Proofs.Json.Scalar

/-!
What is written is read back: strings with their escapes, integers of sixty-four bits, and records
member by member.
-/

set_option autoImplicit false

namespace Passbook.Json

open Nat (toDigits ofDigitChars)

variable {text : List Char} {source rest : Source}

/-!
## Strings
-/

theorem hexValue?_hexDigit {value : ℕ} (small : value < 16) :
    Text.hexValue? (hexDigit value) = some value := by
  decide +revert

theorem readContent_control {char : Char} (control : char.toNat < 0x20) (read : List Char)
    (source : Source) :
    readContent none read
      (some '\\' :: some 'u' :: some '0' :: some '0' :: some (hexDigit (char.toNat / 16)) ::
        some (hexDigit (char.toNat % 16)) :: source) = readContent none (char :: read) source := by
  have code : hex4? (some '0') (some '0') (some (hexDigit (char.toNat / 16)))
      (some (hexDigit (char.toNat % 16))) = some char.toNat := by
    have zero : Text.hexValue? '0' = some 0 := by decide
    simp only [hex4?, zero, hexValue?_hexDigit (show char.toNat / 16 < 16 by omega),
      hexValue?_hexDigit (Nat.mod_lt _ (by decide : 0 < 16)), Option.some.injEq]
    omega
  rw [readContent.eq_def]
  simp only [code]
  rw [if_neg (by omega), if_neg (by omega), Char.ofNat_toNat]

theorem readContent_writtenChar (char : Char) (read : List Char) (source : Source) :
    readContent none read (Source.ofChars (writtenChar char) ++ source) =
      readContent none (char :: read) source := by
  rw [writtenChar]
  split_ifs with quote backslash newline carriage tab backspace feed control
  · subst quote; rfl
  · subst backslash; rfl
  · subst newline; rfl
  · subst carriage; rfl
  · subst tab; rfl
  · subst backspace; rfl
  · subst feed; rfl
  · exact readContent_control control read source
  · refine readContent_cons ?_ read source
    simp only [isOrdinary, Bool.and_eq_true, bne_iff_ne, decide_eq_true_eq]
    exact ⟨⟨quote, backslash⟩, not_lt.mp control⟩

theorem readContent_written (text read : List Char) (rest : Source) :
    readContent none read (Source.ofChars (text.flatMap writtenChar) ++ some '"' :: rest) =
      .ok (read.reverse ++ text, rest) := by
  induction text generalizing read with
  | nil => simp [Source.ofChars, readContent]
  | cons char text ih =>
      have split : Source.ofChars ((char :: text).flatMap writtenChar) ++ some '"' :: rest =
          Source.ofChars (writtenChar char) ++
            (Source.ofChars (text.flatMap writtenChar) ++ some '"' :: rest) := by
        simp [Source.ofChars]
      rw [split, readContent_writtenChar, ih, List.reverse_cons, List.append_assoc,
        List.singleton_append]

theorem readHead_writeChars (text : List Char) (rest : Source) :
    readHead (Source.ofChars (writeChars text) ++ rest) = .ok (.text text, rest) := by
  have split : Source.ofChars (writeChars text) ++ rest =
      some '"' :: (Source.ofChars (text.flatMap writtenChar) ++ some '"' :: rest) := by
    simp [Source.ofChars, writeChars]
  have content := readContent_written text [] rest
  rw [split]
  change (readString (Source.ofChars (text.flatMap writtenChar) ++ some '"' :: rest)).map _ = _
  rw [readString, content]
  rfl

/-!
## Integers
-/

/-- Only zero is written with a leading zero. -/
theorem toDigits_leading {number : ℕ} (zero : (toDigits 10 number).head? = some '0') :
    toDigits 10 number = ['0'] := by
  obtain ⟨more, text⟩ := List.head?_eq_some_iff.mp zero
  have value : ofDigitChars 10 (toDigits 10 number) 0 = number := Nat.ofDigitChars_ten_toDigits
  have isDigit := Text.toDigits_isDigit number
  rw [text, List.all_cons, Bool.and_eq_true] at isDigit
  rw [text, Nat.ofDigitChars_cons] at value
  have small : number < 10 ^ more.length := value ▸ Text.ofDigitChars_lt isDigit.2
  cases more with
  | nil => exact text
  | cons digit more =>
      have short :=
        (Nat.length_toDigits_le_iff (by decide : 1 < 10) (by simp : 0 < (digit :: more).length)).mpr
          small
      rw [text] at short
      simp at short

def Numeral.ofNat (number : ℕ) : Numeral where
  whole := toDigits 10 number
  fraction := []
  wholeDigits := Text.toDigits_isDigit number
  fractionDigits := rfl
  nonempty := Nat.toDigits_ne_nil
  leading := toDigits_leading

theorem writeInt_natural (number : ℕ) : writeInt number = toDigits 10 number := by
  simp [writeInt, toString, Int.repr, Nat.repr]

theorem writeInt_negative {magnitude : ℕ} (positive : 0 < magnitude) :
    writeInt (-magnitude) = '-' :: toDigits 10 magnitude := by
  obtain ⟨number, rfl⟩ := Nat.exists_eq_succ_of_ne_zero positive.ne'
  change writeInt (.negSucc number) = _
  simp [writeInt, toString, Int.repr, Nat.repr]

theorem readHead_natural {number : ℕ} (small : number < twoTo 64) (ends : Ends rest) :
    readHead (Source.ofChars (writeInt number) ++ rest) =
      .ok (.number (.natural number), rest) := by
  have value : ofDigitChars 10 (toDigits 10 number) 0 = number := Nat.ofDigitChars_ten_toDigits
  have digits := appendDigits_eq (value.symm ▸ small)
  rw [value] at digits
  have found : (Numeral.ofNat number).parts.value? = some (.natural number) := by
    simp only [Numeral.parts, Numeral.ofNat, NumberText.value?, digits]
    rfl
  rw [writeInt_natural]
  exact readHead_numeral found ends

theorem readHead_negative {magnitude : ℕ} (positive : 0 < magnitude) (small : magnitude ≤ twoTo 63)
    (ends : Ends rest) :
    readHead (Source.ofChars (writeInt (-magnitude)) ++ rest) =
      .ok (.number (.negative magnitude), rest) := by
  have value : ofDigitChars 10 (toDigits 10 magnitude) 0 = magnitude :=
    Nat.ofDigitChars_ten_toDigits
  have digits := appendDigits_eq (value.symm ▸ small.trans_lt (by decide : twoTo 63 < twoTo 64))
  rw [value] at digits
  have found : NumberText.value? ⟨true, toDigits 10 magnitude, [], false, none⟩ =
      some (.negative magnitude) := by
    simp only [NumberText.value?, digits]
    simp [positive.ne', small]
  have read : readNumberText true (Source.ofChars (toDigits 10 magnitude) ++ rest) =
      .ok (⟨true, toDigits 10 magnitude, [], false, none⟩, rest) :=
    readNumberText_whole (.ofNat magnitude) ends.isDigit ends.readFraction ends.readPower
  rw [writeInt_negative positive]
  change (readNumber true (Source.ofChars (toDigits 10 magnitude) ++ rest)).map _ = _
  simp only [readNumber, bind, Except.bind, read, found]
  rfl

/-- Whether a number has room in sixty-four bits, one of them for the sign. -/
def IsInt64 (value : ℤ) : Prop := -(twoTo 63 : ℤ) ≤ value ∧ value < twoTo 63

theorem readInt64_writeInt {value : ℤ} (inRange : IsInt64 value) (ends : Ends rest) :
    readInt64 (Source.ofChars (writeInt value) ++ rest) = .ok (value, rest) := by
  obtain ⟨least, greatest⟩ := inRange
  rcases le_or_gt 0 value with nonneg | negative
  · obtain ⟨number, rfl⟩ := Int.eq_ofNat_of_zero_le nonneg
    have small : number < twoTo 63 := by exact_mod_cast greatest
    rw [readInt64, readHead_natural (small.trans (by decide)) ends]
    exact if_pos small
  · obtain ⟨magnitude, rfl⟩ := Int.exists_eq_neg_ofNat negative.le
    have small : magnitude ≤ twoTo 63 := by
      have bound := neg_le_neg_iff.mp least
      exact_mod_cast bound
    rw [readInt64, readHead_negative (by omega) small ends]
    rfl

theorem exists_writeInt_eq (value : ℤ) :
    ∃ first more, writeInt value = first :: more ∧ (first = '-' ∨ first.isDigit = true) := by
  rcases le_or_gt 0 value with nonneg | negative
  · obtain ⟨number, rfl⟩ := Int.eq_ofNat_of_zero_le nonneg
    obtain ⟨first, more, text⟩ :=
      List.exists_cons_of_ne_nil (Nat.toDigits_ne_nil (b := 10) (n := number))
    have isDigit := Text.toDigits_isDigit number
    rw [text, List.all_cons, Bool.and_eq_true] at isDigit
    exact ⟨first, more, (writeInt_natural number).trans text, .inr isDigit.1⟩
  · obtain ⟨magnitude, rfl⟩ := Int.exists_eq_neg_ofNat negative.le
    exact ⟨'-', _, writeInt_negative (by omega), .inl rfl⟩

/-- An integer is not taken for `null`. -/
theorem readOption_writeInt {α : Type} (reader : Reader α) (value : ℤ) (rest : Source) :
    readOption reader (Source.ofChars (writeInt value) ++ rest) =
      (reader (Source.ofChars (writeInt value) ++ rest)).map fun (value, rest) =>
        (some value, rest) := by
  obtain ⟨first, more, text, sign⟩ := exists_writeInt_eq value
  have solid (source : Source) : skipSpaces (some first :: source) = some first :: source := by
    rcases sign with rfl | digit
    · rfl
    · exact skipSpaces_of_isDigit digit source
  have notNull : first ≠ 'n' := by
    rintro rfl
    revert sign
    decide
  have split : Source.ofChars (writeInt value) ++ rest =
      some first :: (Source.ofChars more ++ rest) := by
    rw [text]
    rfl
  rw [split, readOption.eq_def, solid]
  split
  · next null => exact absurd (Option.some.inj (List.cons.inj null).1) notNull
  · rfl

/-!
## Records
-/

variable {σ α : Type} {shape : Shape σ α} {record next last : σ} {field : Field σ} {name : String}
  {value : List Char} {members : List (String × List Char)}

def writtenMember (member : String × List Char) : List Char := writeText member.1 ++ ':' :: member.2

/-- What members do to a record when they are read one after the other. -/
inductive Fills (shape : Shape σ α) : σ → List (String × List Char) → σ → Prop
  | nil {record : σ} : Fills shape record [] record
  | cons {record last : σ} {field : Field σ} {name : String} {value : List Char}
      {members : List (String × List Char)} (next : σ)
      (found : shape.fields.find? (fun field => field.name.toList == name.toList) = some field)
      (fresh : field.isSet record = false)
      (read : ∀ {rest : Source}, Ends rest →
        field.read record (Source.ofChars value ++ rest) = .ok (next, rest))
      (more : Fills shape next members last) : Fills shape record ((name, value) :: members) last

theorem joined_cons (part : List Char) (parts : List (List Char)) :
    joined (part :: parts) = part ++ parts.flatMap (',' :: ·) := by
  induction parts generalizing part with
  | nil => simp [joined]
  | cons next parts ih =>
      rw [joined, ih, List.flatMap_cons, List.cons_append]; exact List.cons_ne_nil _ _

theorem readMember_written
    (found : shape.fields.find? (fun field => field.name.toList == name.toList) = some field)
    (fresh : field.isSet record = false)
    (read : field.read record (Source.ofChars value ++ rest) = .ok (next, rest)) (fuel : ℕ) :
    readMember shape fuel record (Source.ofChars (name.toList.flatMap writtenChar) ++ some '"' ::
      some ':' :: (Source.ofChars value ++ rest)) =
      .ok (next, rest) := by
  have content := readContent_written name.toList [] (some ':' :: (Source.ofChars value ++ rest))
  have colon : expect ':' (some ':' :: (Source.ofChars value ++ rest)) =
      .ok (Source.ofChars value ++ rest) := rfl
  rw [List.reverse_nil, List.nil_append] at content
  simp only [readMember, readString, content, found, fresh, colon, Field.readInto, read, bind,
    Except.bind, Except.mapError, Bool.false_eq_true, if_false]

theorem ends_members (members : List (String × List Char)) (rest : Source) :
    Ends (Source.ofChars (members.flatMap fun member => ',' :: writtenMember member) ++
      some '}' :: rest) := by
  intro char more same
  cases members with
  | nil =>
      cases same
      decide
  | cons member members =>
      cases same
      decide

theorem readMembers_written
    (found : shape.fields.find? (fun field => field.name.toList == name.toList) = some field)
    (fresh : field.isSet record = false)
    (read : field.read record (Source.ofChars value ++ rest) = .ok (next, rest)) (fuel : ℕ) :
    readMembers shape (fuel + 1) true record
      (Source.ofChars (writtenMember (name, value)) ++ rest) =
      readMembers shape fuel false next rest ∧
      readMembers shape (fuel + 1) false record
        (some ',' :: (Source.ofChars (writtenMember (name, value)) ++ rest)) =
        readMembers shape fuel false next rest := by
  have member := readMember_written found fresh read fuel
  have split : Source.ofChars (writtenMember (name, value)) ++ rest =
      some '"' :: (Source.ofChars (name.toList.flatMap writtenChar) ++ some '"' :: some ':' ::
        (Source.ofChars value ++ rest)) := by
    simp [Source.ofChars, writtenMember, writeText, writeChars]
  have quote (source : Source) : skipSpaces (some '"' :: source) = some '"' :: source := rfl
  have comma (source : Source) : skipSpaces (some ',' :: source) = some ',' :: source := rfl
  rw [split]
  constructor
  · rw [readMembers.eq_def]
    simp only [quote, member]
  · rw [readMembers.eq_def]
    simp only [quote, comma, member]

theorem Fills.readMembers (fills : Fills shape record members last) {fuel : ℕ}
    (enough : members.length < fuel) (rest : Source) :
    readMembers shape fuel false record
      (Source.ofChars (members.flatMap fun member => ',' :: writtenMember member) ++ some '}' ::
        rest) = .ok (last, rest) := by
  -- Every member takes one unit of fuel, so the induction on them carries the bound along.
  induction fills generalizing fuel with
  | nil =>
      obtain ⟨fuel, rfl⟩ := Nat.exists_eq_succ_of_ne_zero (Nat.ne_of_gt enough)
      rfl
  | @cons record last field name value members next found fresh read more ih =>
      obtain ⟨fuel, rfl⟩ := Nat.exists_eq_succ_of_ne_zero (Nat.ne_of_gt (Nat.zero_lt_of_lt enough))
      have step := (readMembers_written found fresh (read (ends_members members rest)) fuel).2
      have split :
        Source.ofChars
          (((name, value) :: members).flatMap fun member => ',' :: writtenMember member) ++
          some '}' :: rest =
          some ',' :: (Source.ofChars (writtenMember (name, value)) ++
            (Source.ofChars (members.flatMap fun member => ',' :: writtenMember member) ++
              some '}' :: rest)) := by
        simp [Source.ofChars]
      rw [split]
      exact step.trans (ih (Nat.lt_of_succ_lt_succ enough))

theorem length_members (members : List (String × List Char)) :
    members.length ≤ (joined (members.map writtenMember)).length := by
  cases members with
  | nil => exact Nat.zero_le _
  | cons member members =>
      have commas : members.length ≤ ((members.map writtenMember).flatMap (',' :: ·)).length := by
        induction members with
        | nil => exact Nat.zero_le _
        | cons member members ih =>
            rw [List.map_cons, List.flatMap_cons, List.length_append,
              List.length_cons, List.length_cons]
            omega
      have some : 0 < (writtenMember member).length := by simp [writtenMember]
      rw [List.map_cons, joined_cons, List.length_append, List.length_cons]
      omega

/-- A written record is read as what its members make of it. -/
theorem Fills.read (fills : Fills shape shape.start members last) (rest : Source) :
    shape.read (Source.ofChars (writeObject members) ++ rest) =
      (shape.finish last).map fun value => (value, rest) := by
  set after := Source.ofChars (joined (members.map writtenMember)) ++ some '}' :: rest with isAfter
  have split : Source.ofChars (writeObject members) ++ rest = some '{' :: after := by
    simp only [isAfter, Source.ofChars, writeObject, List.map_cons, List.map_append,
      List.cons_append, List.append_assoc]
    rfl
  have enough : members.length < after.length + 1 := by
    have length := length_members members
    simp only [isAfter, Source.ofChars, List.length_append, List.length_map]
    omega
  have read : Json.readMembers shape (after.length + 1) true shape.start after =
      .ok (last, rest) := by
    generalize after.length = fuel at enough
    rw [isAfter]
    cases fills with
    | nil => rfl
    | @cons record last field name value members next found fresh read more =>
        have step := (readMembers_written found fresh (read (ends_members members rest)) fuel).1
        have split : Source.ofChars (joined (((name, value) :: members).map writtenMember)) ++
          some '}' :: rest =
            Source.ofChars (writtenMember (name, value)) ++
              (Source.ofChars (members.flatMap fun member => ',' :: writtenMember member) ++
                some '}' :: rest) := by
          rw [List.map_cons, joined_cons]
          simp [Source.ofChars, List.flatMap_map]
        rw [split]
        exact step.trans (more.readMembers (Nat.lt_of_succ_lt_succ enough) rest)
  have head : readHead (some '{' :: after) = .ok (.object, after) := rfl
  rw [split, Shape.read, head]
  simp only [bind, Except.bind, read]
  cases shape.finish last <;> rfl

end Passbook.Json
