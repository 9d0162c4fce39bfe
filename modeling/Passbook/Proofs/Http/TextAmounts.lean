import Passbook.Http.Exchange
import Passbook.Memory.Store
import Passbook.Proofs.Decimal.Judgement
import Passbook.Proofs.Decimal.PlainReading
import Passbook.Proofs.Http.Amounts

/-!
Movements whose amount is written as a string, with any number of digits. The text is rounded when
it is read, before it is judged: an amount with room for all its digits is posted exactly or
refused, but a text that is no amount can be rounded to one and is then posted as that.
-/

set_option autoImplicit false

namespace Passbook.Http

open Decimal (PlainText GivesAmount)
open Json (Source)

variable {σ υ π : Type} {store : LedgerStore σ υ π} {request : Request} {kind : EntryKind}
  {account : AccountId} {text : PlainText} {amount : Amount}

def quoted (text : PlainText) : List Char := '"' :: text.chars ++ ['"']

/-- A request to move the amount that is written as the string of a plain text, on an account. -/
structure Request.Writes (request : Request) (kind : EntryKind) (account : AccountId)
    (text : PlainText) : Prop where
  posted : request.method = "POST"
  path : ∃ id, Resource.ofPath? request.path = some (.movement kind id) ∧
    Request.readAccount id = .ok account
  media : (request.header? "content-type").any isJsonMediaType = true
  body : request.body = Text.toUtf8 (movementBody (quoted text))

/-- The amount is handed to a call on the ledger, whenever the request is answered. -/
def Request.Hands (request : Request) (store : LedgerStore σ υ π) (kind : EntryKind)
    (account : AccountId) (amount : Amount) : Prop :=
  ∀ now timeout, (Exchange.start store now timeout request).work =
    .moving ⟨callContext now timeout, account, kind, amount⟩ (Posting.start store)

/-- The request is answered at once, with a fault that is found in it, and leaves the store as it
is. -/
def Request.FaultFound (request : Request) (store : LedgerStore σ υ π) : Prop :=
  ∃ reason, ∀ now timeout world,
    ((Exchange.start store now timeout request).step store world).1 =
      .ends ⟨request.id, .failure 400 "validation_error" reason⟩ ∧
      ((Exchange.start store now timeout request).step store world).2.store = world.store

/-!
## Reading the body
-/

theorem PlainText.all_chars (text : PlainText) {holds : Char → Bool}
    (digit : ∀ {char : Char}, char.isDigit = true → holds char = true)
    (signs : ['.', '-', '+'].all holds = true) : text.chars.all holds = true := by
  rw [List.all_eq_true] at signs ⊢
  intro char member
  rcases text.mem_chars member with isDigit | rfl | rfl | rfl
  · exact digit isDigit
  all_goals exact signs _ (by decide)

theorem ascii_quoted (text : PlainText) : (quoted text).all isAscii = true := by
  have ascii : text.chars.all isAscii = true :=
    PlainText.all_chars text ascii_of_isDigit (by decide)
  simp only [quoted, List.cons_append, List.all_cons, List.all_append, ascii]
  decide

theorem readHead_quoted (text : PlainText) :
    Json.readHead (some ' ' :: (Source.ofChars (quoted text) ++ [some '}'])) =
      .ok (.text text.chars, [some '}']) := by
  have split : Source.ofChars (quoted text) ++ [some '}'] =
      some '"' :: (Source.ofChars text.chars ++ some '"' :: [some '}']) := by
    simp [Source.ofChars, quoted]
  rw [split, Json.readHead_space]
  exact Json.readHead_text (PlainText.all_chars text Json.isOrdinary_of_isDigit (by decide))

/-- The body is read if its text is, as the decimal that the text is read as; otherwise the field is
at fault. -/
theorem readJson_quoted (text : PlainText) :
    MovementBody.readJson (Source.ofChars (movementBody (quoted text))) =
      match Decimal.read text.chars with
      | some value => .ok (⟨value⟩, [])
      | none =>
          .error (((Json.Head.text text.chars).unacceptable
            "a Decimal type representing a fixed-point number").inside "amount") := by
  cases found : Decimal.read text.chars with
  | some value =>
      apply readJson_movementBody
      rw [Decimal.readJson, readHead_quoted]
      simp only [bind, Except.bind, found]
      rfl
  | none =>
      apply readJson_movementBody_fault
      rw [Decimal.readJson, readHead_quoted]
      simp only [bind, Except.bind, found]
      rfl

/-!
## Judging the amount
-/

theorem givesAmount_iff {value : Decimal} :
    GivesAmount (some value) amount ↔ Amount.ofDecimal value = .ok amount := by
  rw [Amount.ofDecimal_ok_iff]
  constructor
  · rintro ⟨same, found, worth⟩
    cases found
    exact worth.symm
  · exact fun worth => ⟨value, rfl, worth.symm⟩

theorem givesAmount_unique {reading : Option Decimal} {one other : Amount}
    (first : GivesAmount reading one) (second : GivesAmount reading other) : one = other := by
  obtain ⟨value, rfl, worth⟩ := first
  have accepted := (Amount.ofDecimal_eq worth).symm.trans (givesAmount_iff.mp second)
  exact Except.ok.inj accepted

variable (writes : request.Writes kind account text)
include writes

/-- A body of the wanted size is read if its text is. -/
theorem Request.Writes.readBody :
    (∃ value, (request.body.length ≤ maxBodyLength ∧ Decimal.read text.chars = some value) ∧
      request.readBody MovementBody.readJson = .ok ⟨value⟩) ∨
    (∀ value, ¬ (request.body.length ≤ maxBodyLength ∧ Decimal.read text.chars = some value)) ∧
      ∃ reason, request.readBody MovementBody.readJson = .error (refuseBody reason) := by
  have decoded : Text.decodeUtf8 request.body = Source.ofChars (movementBody (quoted text)) :=
    writes.body ▸ decode_movementBody (ascii_quoted text)
  have media : (!(request.header? "content-type").any isJsonMediaType) = false := by
    rw [writes.media, Bool.not_true]
  by_cases size : request.body.length ≤ maxBodyLength
  · cases found : Decimal.read text.chars with
    | some value =>
        refine .inl ⟨value, ⟨size, rfl⟩, ?_⟩
        simp only [Request.readBody, media, Bool.false_eq_true, if_false, not_lt.mpr size, decoded,
          readJson_quoted, found]
    | none =>
        refine .inr ⟨?_, ?_⟩
        · rintro value ⟨room, reads⟩
          cases reads
        · simp only [Request.readBody, media, Bool.false_eq_true, if_false, not_lt.mpr size,
            decoded, readJson_quoted, found]
          exact ⟨_, rfl⟩
  · refine .inr
      ⟨fun value reads => size reads.1, "Failed to buffer the request body: length limit exceeded",
        ?_⟩
    simp only [Request.readBody, media, Bool.false_eq_true, if_false, not_le.mp size, if_true]

theorem Request.Writes.actionOn : request.action =
    match request.readBody MovementBody.readJson with
    | .error response => .answer response
    | .ok body =>
        match Amount.ofDecimal body.amount with
        | .ok amount => .move kind account amount
        | .error refusal => .answer refusal.response := by
  obtain ⟨id, path, named⟩ := writes.path
  have allowed : (Resource.movement kind id).methods.contains request.method = true := by
    rw [writes.posted]
    rfl
  simp only [Request.action, path, allowed, if_true, Request.actionOn, named, bind, Except.bind]
  cases request.readBody MovementBody.readJson with
  | error response => rfl
  | ok body =>
      cases judged : Amount.ofDecimal body.amount with
      | error refusal => simp only [judged, Except.mapError]
      | ok amount => simp only [judged, Except.mapError, pure, Except.pure]

theorem Request.Writes.action :
    (∃ amount, (request.body.length ≤ maxBodyLength ∧
      GivesAmount (Decimal.read text.chars) amount) ∧
      request.action = .move kind account amount) ∨
    (∀ amount, ¬ (request.body.length ≤ maxBodyLength ∧
      GivesAmount (Decimal.read text.chars) amount)) ∧
      ∃ reason, request.action = .answer (.failure 400 "validation_error" reason) := by
  rw [writes.actionOn]
  rcases writes.readBody with ⟨value, ⟨size, found⟩, understood⟩ | ⟨unread, reason, refused⟩
  · rw [understood, found]
    cases judged : Amount.ofDecimal value with
    | ok amount => exact .inl ⟨amount, ⟨size, givesAmount_iff.mpr judged⟩, by simp only [judged]⟩
    | error refusal =>
        obtain ⟨defect, rfl⟩ := Amount.exists_defect judged
        refine .inr ⟨fun amount gives => ?_, defect.reason, by simp only [judged]; rfl⟩
        have accepted := judged.symm.trans (givesAmount_iff.mp gives.2)
        cases accepted
  · rw [refused]
    exact .inr ⟨fun amount ⟨size, value, found, _⟩ => unread value ⟨size, found⟩, reason, rfl⟩

omit writes

theorem Request.hands_iff :
    request.Hands store kind account amount ↔ request.action = .move kind account amount := by
  constructor
  · intro hands
    have work := hands 0 0
    simp only [Exchange.start] at work
    cases action : request.action <;> simp only [action] at work <;> grind
  · intro action now timeout
    simp only [Exchange.start, action]

theorem Request.faultFound (posted : request.method = "POST") {reason : String}
    (action : request.action = .answer (.failure 400 "validation_error" reason)) :
    request.FaultFound store := by
  have body : ¬ request.method = "HEAD" := by
    rw [posted]
    decide
  refine ⟨reason, fun now timeout world => ⟨?_, ?_⟩⟩
  · simp only [Exchange.step, Exchange.start, action, Exchange.finish, Exchange.sent, if_neg body]
  · simp only [Exchange.step, Exchange.start, action, Exchange.finish, World.report]

/-!
## What is posted
-/

/-- What becomes of a request to move the amount of a plain text. -/
structure Request.PostsRounded (request : Request) (store : LedgerStore σ υ π) (kind : EntryKind)
    (account : AccountId) (text : PlainText) : Prop where
  handed : ∀ amount, request.Hands store kind account amount ↔
    request.body.length ≤ maxBodyLength ∧ amount.value.toRat = text.rounded
  refused : (∀ amount, ¬ request.Hands store kind account amount) → request.FaultFound store
  /-- Every amount that can be written is posted as it is written. -/
  payable : text.Payable → text.rounded = text.toRat ∧
    ∃ amount : Amount, amount.value.toRat = text.toRat
  /-- Nothing else is posted, if there is room for all digits or if there are at most twelve after
  the point. -/
  exact : text.Fits ∨ text.fraction.length ≤ 12 →
    ∀ amount : Amount, amount.value.toRat = text.rounded ↔
      text.Payable ∧ amount.value.toRat = text.toRat
  /-- What is posted is never further than half a unit of the twelfth place from what is written. -/
  close : ∀ amount : Amount, amount.value.toRat = text.rounded →
    |amount.value.toRat - text.toRat| ≤ 1 / (2 * 10 ^ 12)

/-- A movement is posted exactly if the number of its text, as far as a decimal has room for it, is
an amount; otherwise the request is at fault and the ledger stays as it is. -/
theorem text_amounts_rounded (store : LedgerStore σ υ π)
    (writes : request.Writes kind account text) :
    request.PostsRounded store kind account text where
  handed := by
    intro amount
    rw [Request.hands_iff, ← PlainText.read_givesAmount]
    rcases writes.action with ⟨posted, gives, action⟩ | ⟨none, reason, action⟩
    · rw [action, Action.move.injEq]
      exact ⟨fun same => same.2.2 ▸ gives,
        fun same => ⟨rfl, rfl, givesAmount_unique gives.2 same.2⟩⟩
    · rw [action]
      exact iff_of_false (fun same => nomatch same) (none amount)
  refused := by
    intro nothing
    rcases writes.action with ⟨posted, gives, action⟩ | ⟨none, reason, action⟩
    · exact absurd (Request.hands_iff.mpr action) (nothing posted)
    · exact Request.faultFound writes.posted action
  payable payable := ⟨payable.rounded, PlainText.payable_iff.mp payable⟩
  exact := by
    intro short amount
    constructor
    · intro same
      have worth := same.trans (PlainText.exact_of_rounded same short)
      exact ⟨PlainText.payable_iff.mpr ⟨amount, worth⟩, worth⟩
    · rintro ⟨payable, worth⟩
      exact worth.trans payable.rounded.symm
  close _ same := PlainText.close_of_rounded same

/-- A request to credit the amount of a text to the first account. -/
def crediting (text : PlainText) : Request :=
  ⟨"POST", "/api/v1/accounts/1/credit".toList, [("content-type", "application/json")],
    Text.toUtf8 (movementBody (quoted text))⟩

theorem crediting_writes (text : PlainText) : (crediting text).Writes .credit ⟨1⟩ text where
  posted := rfl
  path := by
    have path : (crediting text).path = "/api/v1/accounts/1/credit".toList := by
      change (path? "/api/v1/accounts/1/credit".toList).getD [] = _
      decide +kernel
    exact ⟨['1'], by rw [path]; rfl, by rfl⟩
  media := by
    change (some "application/json".toList).any isJsonMediaType = true
    decide +kernel
  body := rfl

/-- The text `+007.5000`. -/
def paddedText : PlainText :=
  ⟨.plus, ['0', '0', '7'], true, ['5', '0', '0', '0'], by decide, by decide, by decide, by decide⟩

theorem text_amounts_rounded_sample : (crediting paddedText).Writes .credit ⟨1⟩ paddedText ∧
    ∃ amount : Amount, amount.value.toRat = 15 / 2 ∧
      (crediting paddedText).Hands Memory.store .credit ⟨1⟩ amount := by
  have worth : paddedText.toRat = 15 / 2 := by
    have number : paddedText.number = 75000 := by decide
    rw [PlainText.toRat, PlainText.size, number]
    norm_num [paddedText, Decimal.Sign.factor]
  have payable : paddedText.Payable := by
    refine ⟨by rw [worth]; norm_num, ?_, 75000, by rw [worth]; norm_num [moneyScale]⟩
    rw [worth]
    norm_num [Decimal.toRat, Decimal.coefficient, maxMoney, moneyScale]
  have posts := text_amounts_rounded Memory.store (crediting_writes paddedText)
  obtain ⟨same, amount, written⟩ := posts.payable payable
  exact ⟨crediting_writes paddedText, amount, written.trans worth,
    (posts.handed amount).mpr ⟨by decide +kernel, written.trans same.symm⟩⟩

/-- The text `1.00000000000000000000000000001`, with a fraction of twenty-nine digits. -/
def longText : PlainText :=
  ⟨.none, ['1'], true, List.replicate 28 '0' ++ ['1'], by decide, by decide, by decide, by decide⟩

/-- The last digit is given up before it could be found to be too much: what is written is no amount
and is posted as `1`. -/
theorem long_fraction_posted : ¬ longText.Payable ∧
    ∃ amount : Amount, amount.value.toRat = 1 ∧
      (crediting longText).Hands Memory.store .credit ⟨1⟩ amount := by
  have written : longText.toRat = 1 + 1 / 10 ^ 29 := by
    have number : longText.number = 10 ^ 29 + 1 := by decide +kernel
    rw [PlainText.toRat, PlainText.size, number]
    norm_num [longText, Decimal.Sign.factor]
  have read : Decimal.read longText.chars = some ⟨false, 10 ^ 28, 28, by decide, by decide⟩ := by
    decide +kernel
  let one : Amount :=
    ⟨⟨false, 1, 0, by decide, by decide⟩, by decide, by decide, by decide, by decide⟩
  have worth : one.value.toRat = 1 := by
    change (⟨false, 1, 0, _, _⟩ : Decimal).toRat = 1
    norm_num [Decimal.toRat, Decimal.coefficient]
  have gives : GivesAmount (Decimal.read longText.chars) one := by
    refine ⟨_, read, worth ▸ ?_⟩
    norm_num [Decimal.toRat, Decimal.coefficient]
  refine ⟨fun payable => ?_, one, worth, Request.hands_iff.mpr ?_⟩
  · obtain ⟨units, fine⟩ := payable.fine
    rw [written, moneyScale] at fine
    have whole : (10 ^ 29 + 1 : ℕ) = units * 10 ^ 25 := by
      have scaled : (10 ^ 29 + 1 : ℚ) = units * 10 ^ 25 := by linarith
      exact_mod_cast scaled
    omega
  · rcases (crediting_writes longText).action with ⟨posted, given, action⟩ | ⟨none, -⟩
    · exact givesAmount_unique given.2 gives ▸ action
    · exact absurd ⟨by decide +kernel, gives⟩ (none one)

end Passbook.Http
