import Passbook.Http.Request
import Passbook.Proofs.Decimal.Units
import Passbook.Proofs.Json.Real
import Passbook.Proofs.Json.Scalar

/-!
Amounts in the bodies of movements. An amount that is written as a string is posted exactly. An
amount that is written as a number is posted exactly if it has no point or if its digits form a
number below `2 ^ 52`; beyond that the double between the text and the decimal can change it.
-/

set_option autoImplicit false

namespace Passbook.Http

open Json (Source Numeral)

def amountName : List Char := ['a', 'm', 'o', 'u', 'n', 't']

/-- The body of a movement whose amount is written as the given JSON value. -/
def movementBody (amount : List Char) : List Char :=
  '{' :: '"' :: amountName ++ '"' :: ':' :: ' ' :: amount ++ ['}']

def asString (numeral : Numeral) : List Char := '"' :: numeral.text ++ ['"']

/-!
## Bodies
-/

variable {amount : Decimal} {source rest : Source}

/-- The one member of the body is read as a decimal; a fault inside it names the field. -/
theorem readMember_amount (fuel : ℕ) (source : Source) :
    Json.readMember MovementBody.shape fuel none
      (Source.ofChars amountName ++ some '"' :: some ':' :: source) =
      ((Decimal.readJson source).map fun (amount, rest) => (some amount, rest)).mapError
        (·.inside "amount") := by
  have name : Json.readString (Source.ofChars amountName ++ some '"' :: some ':' :: source) =
      .ok (amountName, some ':' :: source) :=
    Json.readContent_ordinary (by decide) []
  have field : (MovementBody.shape.fields.find? fun field => field.name.toList == amountName) =
      some (MovementBody.shape.fields.head (by simp [MovementBody.shape])) := by
    rfl
  have colon : Json.expect ':' (some ':' :: source) = .ok source := rfl
  simp only [Json.readMember, name, field, colon, bind, Except.bind]
  simp only [MovementBody.shape, List.head_cons, Option.isSome_none, Bool.false_eq_true, if_false,
    Json.Field.readInto]

/-- The body is read as its one member is. -/
private theorem readJson_opened (written : List Char) :
    ∃ fuel, MovementBody.readJson (Source.ofChars (movementBody written)) = (do
    let (record, rest) ←
      (match ((Decimal.readJson (some ' ' :: (Source.ofChars written ++ [some '}']))).map
        fun (amount, rest) => (some amount, rest)).mapError (·.inside "amount") with
      | .ok (record, rest) => Json.readMembers MovementBody.shape (fuel + 1) false record rest
      | .error fault => .error fault)
    return (← MovementBody.shape.finish record, rest)) := by
  set rest :=
    Source.ofChars amountName ++ some '"' :: some ':' :: some ' ' ::
      (Source.ofChars written ++ [some '}']) with isRest
  have split : Source.ofChars (movementBody written) = some '{' :: some '"' :: rest := by
    simp [isRest, Source.ofChars, movementBody]
  have quote : ∀ more : Source, Json.skipSpaces (some '"' :: more) = some '"' :: more :=
    fun _ => rfl
  have opened : ∀ more : Source, Json.readHead (some '{' :: more) = .ok (.object, more) :=
    fun _ => rfl
  have start : MovementBody.shape.start = none := rfl
  refine ⟨rest.length, ?_⟩
  rw [split, MovementBody.readJson, Json.Shape.read, opened]
  simp only [bind, Except.bind, List.length_cons, start]
  rw [Json.readMembers.eq_def]
  simp only [quote, isRest, readMember_amount]
  cases Decimal.readJson (some ' ' :: (Source.ofChars written ++ [some '}'])) <;> rfl

theorem readJson_movementBody {written : List Char}
    (read : Decimal.readJson (some ' ' :: (Source.ofChars written ++ [some '}'])) =
      .ok (amount, [some '}'])) :
    MovementBody.readJson (Source.ofChars (movementBody written)) = .ok (⟨amount⟩, []) := by
  obtain ⟨fuel, opened⟩ := readJson_opened written
  rw [opened, read]
  rfl

theorem readJson_movementBody_fault {written : List Char} {fault : Json.Fault}
    (read : Decimal.readJson (some ' ' :: (Source.ofChars written ++ [some '}'])) = .error fault) :
    MovementBody.readJson (Source.ofChars (movementBody written)) =
      .error (fault.inside "amount") := by
  obtain ⟨fuel, opened⟩ := readJson_opened written
  rw [opened, read]
  rfl

variable {numeral : Numeral}

theorem movementBody_text (payable : numeral.Payable) :
    ∃ amount, MovementBody.readJson (Source.ofChars (movementBody (asString numeral))) =
      .ok (⟨amount⟩, []) ∧
      amount.toRat = numeral.toRat := by
  obtain ⟨amount, found, same⟩ := payable.read_text
  refine ⟨amount, readJson_movementBody ?_, same⟩
  have split : Source.ofChars (asString numeral) ++ [some '}'] =
      some '"' :: (Source.ofChars numeral.text ++ some '"' :: [some '}']) := by
    simp [Source.ofChars, asString]
  rw [split, Decimal.readJson, Json.readHead_space, Json.readHead_text numeral.ordinary]
  simp only [bind, Except.bind, found]
  rfl

theorem movementBody_number (payable : numeral.Payable) :
    ∃ amount, MovementBody.readJson (Source.ofChars (movementBody numeral.text)) =
      .ok (⟨amount⟩, []) ∧
      |amount.toRat - numeral.toRat| ≤ numeral.toRat / 2 ^ 49 ∧
      (numeral.fraction = [] ∨ numeral.number < 2 ^ 52 → amount.toRat = numeral.toRat) := by
  obtain ⟨number, amount, value, found, close, exact⟩ := payable.read_number
  have ends : Json.Ends [some '}'] := by
    rintro char rest ⟨rfl, -⟩
    decide
  refine ⟨amount, readJson_movementBody ?_, close, exact⟩
  rw [Decimal.readJson, Json.readHead_space, Json.readHead_numeral value ends]
  simp only [bind, Except.bind, found]
  rfl

/-!
## Requests
-/

def isAscii (char : Char) : Bool := char.toNat < 0x80

theorem toUtf8_cons {char : Char} (ascii : isAscii char = true) (text : List Char) :
    Text.toUtf8 (char :: text) = UInt8.ofNat char.toNat :: Text.toUtf8 text := by
  have small : char.toNat < 0x80 := by simpa [isAscii] using ascii
  have one : String.utf8EncodeChar char = [UInt8.ofNat char.toNat] :=
    if_pos (Nat.le_of_lt_succ small)
  rw [Text.toUtf8, List.flatMap_cons, one]
  rfl

theorem decodeChar?_ascii {char : Char} (ascii : isAscii char = true) (bytes : List UInt8) :
    Text.decodeChar? (UInt8.ofNat char.toNat :: bytes) = some (char, bytes) := by
  have small : char.toNat < 0x80 := by simpa [isAscii] using ascii
  have value : (UInt8.ofNat char.toNat).toNat = char.toNat := by
    rw [UInt8.toNat_ofNat']
    omega
  have below : UInt8.ofNat char.toNat < 0x80 := by
    rw [UInt8.lt_iff_toNat_lt, value]
    exact small
  rw [Text.decodeChar?, if_pos below, value, Char.ofNat_toNat]

theorem decodeUtf8_ascii {text : List Char} (ascii : text.all isAscii) :
    Text.decodeUtf8 (Text.toUtf8 text) = Source.ofChars text := by
  have decoded : ∀ read, Text.decodeFrom (Text.toUtf8 text).length read (Text.toUtf8 text) =
      (Source.ofChars text).reverse ++ read := by
    induction text with
    | nil => exact fun _ => rfl
    | cons char text ih =>
        intro read
        rw [List.all_cons, Bool.and_eq_true] at ascii
        rw [toUtf8_cons ascii.1, List.length_cons, Text.decodeFrom, decodeChar?_ascii ascii.1]
        simp only [ih ascii.2]
        simp [Source.ofChars]
  rw [Text.decodeUtf8, decoded, List.append_nil, List.reverse_reverse]

theorem ascii_of_isDigit {char : Char} (digit : char.isDigit = true) : isAscii char = true := by
  have bounds := Text.isDigit_bounds digit
  simp only [isAscii, decide_eq_true_eq]
  omega

theorem numeral_ascii (numeral : Numeral) : numeral.text.all isAscii = true :=
  numeral.all_text ascii_of_isDigit (by decide)

theorem exists_amount (payable : numeral.Payable) :
    ∃ amount : Amount, amount.value.toRat = numeral.toRat :=
  Amount.exists_iff.mpr ⟨payable.positive, payable.bounded, payable.fine⟩

theorem decode_movementBody {written : List Char} (ascii : written.all isAscii) :
    Text.decodeUtf8 (Text.toUtf8 (movementBody written)) =
      Source.ofChars (movementBody written) := by
  refine decodeUtf8_ascii ?_
  simp only [movementBody, List.cons_append, List.all_cons, List.all_append, ascii]
  decide

/-- Whether a value in the body of a movement is read as a decimal that denotes an amount, and posts
that amount in both directions. -/
structure Posts (written : List Char) (amount : Amount) : Prop where
  read : ∃ decimal, MovementBody.readJson (Source.ofChars (movementBody written)) =
    .ok (⟨decimal⟩, []) ∧
    decimal.toRat = amount.value.toRat
  action : ∀ {request : Request} {kind : EntryKind} {id : List Char} {account : AccountId},
    request.body = Text.toUtf8 (movementBody written) →
      request.body.length ≤ Request.maxBodyLength →
    Resource.ofPath? request.path = some (.movement kind id) → request.method = "POST" →
    (request.header? "content-type").any isJsonMediaType = true →
      Request.readAccount id = .ok account →
    request.action = .move kind account amount

theorem posts_of_read {written : List Char} {decimal : Decimal} {amount : Amount}
    (ascii : written.all isAscii)
    (read : MovementBody.readJson (Source.ofChars (movementBody written)) = .ok (⟨decimal⟩, []))
    (same : decimal.toRat = amount.value.toRat) : Posts written amount where
  read := ⟨decimal, read, same⟩
  action := by
    intro request kind id account body size path method media named
    have decoded : Text.decodeUtf8 request.body = Source.ofChars (movementBody written) :=
      body ▸ decode_movementBody ascii
    have understood : request.readBody MovementBody.readJson = .ok ⟨decimal⟩ := by
      simp only [Request.readBody, media, Bool.not_true, Bool.false_eq_true, if_false,
        not_lt.mpr size, decoded, read]
    have accepted := Amount.ofDecimal_eq same
    have allowed : (Resource.movement kind id).methods.contains request.method = true := by
      rw [method]
      rfl
    simp only [Request.action, path, allowed, if_true, Request.actionOn, named, understood,
      accepted, bind, Except.bind, Except.mapError]
    rfl

/-- Whatever a payable amount is written as, its string is posted exactly, and its number is read as
a decimal that is off by at most one part in `2 ^ 49`; the number, too, is posted exactly if it has
no point or if all its digits form a number below `2 ^ 52`. -/
theorem written_amounts_posted (payable : numeral.Payable) :
    ∃ amount : Amount, amount.value.toRat = numeral.toRat ∧ Posts (asString numeral) amount ∧
      (numeral.fraction = [] ∨ numeral.number < 2 ^ 52 → Posts numeral.text amount) ∧
      ∃ decimal, MovementBody.readJson (Source.ofChars (movementBody numeral.text)) =
        .ok (⟨decimal⟩, []) ∧
        |decimal.toRat - numeral.toRat| ≤ numeral.toRat / 2 ^ 49 := by
  obtain ⟨amount, value⟩ := exists_amount payable
  obtain ⟨fromText, readText, sameText⟩ := movementBody_text payable
  obtain ⟨fromNumber, readNumber, close, exact⟩ := movementBody_number payable
  have ascii : (asString numeral).all isAscii = true := by
    simp only [asString, List.cons_append, List.all_cons, List.all_append, numeral_ascii]
    decide
  refine ⟨amount, value, posts_of_read ascii readText (sameText.trans value.symm),
    fun short => ?_, fromNumber, readNumber, close⟩
  exact posts_of_read (numeral_ascii numeral) readNumber ((exact short).trans value.symm)

/-- The number `12.50`. -/
def fourDigits : Numeral := ⟨['1', '2'], ['5', '0'], by decide, by decide, by decide, by decide⟩

theorem written_amounts_posted_sample :
    fourDigits.Payable ∧ ∃ amount : Amount, amount.value.toRat = 25 / 2 ∧
      Posts (asString fourDigits) amount ∧ Posts fourDigits.text amount := by
  have number : fourDigits.number = 1250 := by decide
  have value : fourDigits.toRat = 25 / 2 := by
    rw [Numeral.toRat, number]
    norm_num [fourDigits]
  have payable : fourDigits.Payable := by
    refine ⟨by rw [value]; norm_num, ?_, 125000, by rw [value]; norm_num [moneyScale]⟩
    rw [value]
    norm_num [Decimal.toRat, Decimal.coefficient, maxMoney, moneyScale]
  obtain ⟨amount, same, text, digits, -⟩ := written_amounts_posted payable
  exact ⟨payable, amount, same.trans value, text, digits (.inr (by rw [number]; norm_num))⟩

/-- The number `999999999999.9999`. -/
def sixteenDigits : Numeral :=
  ⟨List.replicate 12 '9', List.replicate 4 '9', by decide, by decide, by decide, by decide⟩

/-- Sixteen digits are too many: as a number `999999999999.9999` is posted as a million millions, as
a string it is posted as it is. -/
theorem sixteen_digits_changed :
    sixteenDigits.Payable ∧ ∃ changed exact : Amount, changed.value.toRat = 10 ^ 12 ∧
      exact.value.toRat = sixteenDigits.toRat ∧
      Posts sixteenDigits.text changed ∧ Posts (asString sixteenDigits) exact ∧
        changed.value.toRat ≠ exact.value.toRat := by
  have value : sixteenDigits.toRat = 9999999999999999 / 10 ^ 4 := by
    have number : sixteenDigits.number = 9999999999999999 := by decide
    rw [Numeral.toRat, number]
    norm_num [sixteenDigits]
  have payable : sixteenDigits.Payable := by
    refine ⟨by rw [value]; norm_num, ?_, 9999999999999999, by rw [value]; norm_num [moneyScale]⟩
    rw [value]
    norm_num [Decimal.toRat, Decimal.coefficient, maxMoney, moneyScale]
  obtain ⟨exact, same⟩ := exists_amount payable
  obtain ⟨fromText, readText, sameText⟩ := movementBody_text payable
  have readNumber : MovementBody.readJson (Source.ofChars (movementBody sixteenDigits.text)) =
      .ok (⟨⟨false, 1000000000000, 0, by decide, by decide⟩⟩, []) := by
    decide +kernel
  have million : (⟨false, 1000000000000, 0, by decide, by decide⟩ : Decimal).toRat = 10 ^ 12 := by
    norm_num [Decimal.toRat, Decimal.coefficient]
  let changed : Amount :=
    ⟨⟨false, 1000000000000, 0, by decide, by decide⟩, by decide, by decide, by decide, by decide⟩
  refine ⟨payable, changed, exact, million, same, posts_of_read (numeral_ascii _) readNumber rfl,
    posts_of_read (by decide) readText (sameText.trans same.symm), ?_⟩
  rw [same, value]
  change (⟨false, 1000000000000, 0, by decide, by decide⟩ : Decimal).toRat ≠ _
  rw [million]
  norm_num

end Passbook.Http
