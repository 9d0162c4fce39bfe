import Passbook.Json.Ledger
import Passbook.Proofs.Decimal.Normal
import Passbook.Proofs.Decimal.Text
import Passbook.Proofs.Json.Writer
import Passbook.Proofs.Time.Text

/-!
The documents of the ledger lose nothing: entries, amounts and balances are read back as they were
written.
-/

set_option autoImplicit false

namespace Passbook

open Json (Source Ends Fills IsInt64)

variable {rest : Source}

/-!
## Parts of an entry
-/

theorem Decimal.readJson_writeJson {value : Decimal} (normal : value.IsNormal) (rest : Source) :
    Decimal.readJson (Source.ofChars value.writeJson ++ rest) = .ok (value, rest) := by
  simp only [Decimal.readJson, Decimal.writeJson, Json.readHead_writeChars, bind, Except.bind,
    normal.read_toChars]
  rfl

theorem Amount.readJson_writeJson (amount : Amount) (rest : Source) :
    Amount.readJson (Source.ofChars amount.value.writeJson ++ rest) = .ok (amount, rest) := by
  have same : Amount.ofDecimal amount.value = .ok amount := Amount.ofDecimal_eq rfl
  simp only [Amount.readJson, Decimal.readJson_writeJson amount.normal, bind, Except.bind, same]
  rfl

theorem Money.readJson_writeJson (balance : Money) (rest : Source) :
    Money.readJson (Source.ofChars balance.value.writeJson ++ rest) = .ok (balance, rest) := by
  have same : Money.ofDecimal balance.value = balance := Money.ofDecimal_eq rfl
  simp only [Money.readJson, Decimal.readJson_writeJson balance.normal, bind, Except.bind, same]
  rfl

theorem EntryKind.readJson_writeJson (kind : EntryKind) (rest : Source) :
    EntryKind.readJson (Source.ofChars kind.writeJson ++ rest) = .ok (kind, rest) := by
  have read : EntryKind.ofName kind.name.toList = .ok kind := by
    cases kind <;> rfl
  simp only [EntryKind.readJson, EntryKind.writeJson, Json.writeText,
    Json.readHead_writeChars, read]
  rfl

theorem Time.Timestamp.readJson_writeChars (time : Time.Timestamp) (rest : Source) :
    Time.Timestamp.readJson (Source.ofChars (Json.writeChars time.toChars) ++ rest) =
      .ok (time, rest) := by
  simp only [Time.Timestamp.readJson, Json.readHead_writeChars, bind, Except.bind,
    Time.Timestamp.read_toChars]
  rfl

theorem AccountId.readJson_writeInt {account : AccountId} (inRange : IsInt64 account.value)
    (ends : Ends rest) :
    AccountId.readJson (Source.ofChars (Json.writeInt account.value) ++ rest) =
      .ok (account, rest) := by
  rw [AccountId.readJson, Json.readInt64_writeInt inRange ends]
  rfl

theorem EntryId.readJson_writeInt {id : EntryId} (inRange : IsInt64 id.value) (ends : Ends rest) :
    EntryId.readJson (Source.ofChars (Json.writeInt id.value) ++ rest) = .ok (id, rest) := by
  rw [EntryId.readJson, Json.readInt64_writeInt inRange ends]
  rfl

/-!
## Entries
-/

namespace Entry

/-- Whether the identifiers of an entry have room in sixty-four bits. -/
structure InRange (entry : Entry) : Prop where
  id : IsInt64 entry.id.value
  account : ∀ account ∈ entry.account, IsInt64 account.value

variable {entry : Entry}

def accountText (entry : Entry) : List Char :=
  match entry.account with
  | some account => Json.writeInt account.value
  | none => ['n', 'u', 'l', 'l']

theorem InRange.readOption (inRange : entry.InRange) (ends : Ends rest) :
    Json.readOption AccountId.readJson (Source.ofChars entry.accountText ++ rest) =
      .ok (entry.account, rest) := by
  have accounts := inRange.account
  rw [accountText]
  split
  · next account same =>
      rw [same] at accounts ⊢
      rw [Json.readOption_writeInt, AccountId.readJson_writeInt (accounts account rfl) ends]
      rfl
  · next same =>
      rw [same]
      rfl

theorem writeJson_eq (entry : Entry) :
    entry.writeJson = Json.writeObject [("id", Json.writeInt entry.id.value),
    ("account_id", entry.accountText), ("amount", entry.amount.value.writeJson),
      ("type", entry.kind.writeJson),
    ("created_at", Json.writeChars entry.createdAt.toChars)] := rfl

theorem InRange.fills (inRange : entry.InRange) :
    Fills shape shape.start [("id", Json.writeInt entry.id.value),
      ("account_id", entry.accountText), ("amount", entry.amount.value.writeJson),
      ("type", entry.kind.writeJson), ("created_at", Json.writeChars entry.createdAt.toChars)]
      ⟨some entry.id, some entry.account, some entry.amount, some entry.kind,
        some entry.createdAt⟩ := by
  refine .cons ⟨some entry.id, none, none, none, none⟩ rfl rfl (fun ends => ?_) ?_
  · simp only [EntryId.readJson_writeInt inRange.id ends]
    rfl
  refine .cons ⟨some entry.id, some entry.account, none, none, none⟩ rfl rfl (fun ends => ?_) ?_
  · simp only [inRange.readOption ends]
    rfl
  refine .cons ⟨some entry.id, some entry.account, some entry.amount, none, none⟩ rfl
    rfl (fun _ => ?_) ?_
  · simp only [Amount.readJson_writeJson]
    rfl
  refine .cons ⟨some entry.id, some entry.account, some entry.amount, some entry.kind, none⟩ rfl
    rfl (fun _ => ?_) ?_
  · simp only [EntryKind.readJson_writeJson]
    rfl
  refine .cons _ rfl rfl (fun _ => ?_) .nil
  simp only [Time.Timestamp.readJson_writeChars]
  rfl

theorem InRange.readJson_writeJson (inRange : entry.InRange) (rest : Source) :
    Entry.readJson (Source.ofChars entry.writeJson ++ rest) = .ok (entry, rest) := by
  rw [writeJson_eq, readJson, inRange.fills.read]
  rfl

end Entry

/-!
## Documents
-/

theorem readDocument_of_read {α : Type} {reader : Json.Reader α} {text : List Char} {value : α}
    (read : ∀ rest, reader (Source.ofChars text ++ rest) = .ok (value, rest)) :
    Json.readDocument reader (Source.ofChars text) = .ok value := by
  have all := read []
  rw [List.append_nil] at all
  rw [Json.readDocument, all]
  rfl

/-- Entries, amounts and balances are read back from their documents, whatever they are. -/
theorem documents_read_back (entry : Entry) (inRange : entry.InRange) (amount : Amount)
    (balance : Money) :
    Json.readDocument Entry.readJson (Source.ofChars entry.writeJson) = .ok entry ∧
      Json.readDocument Amount.readJson (Source.ofChars amount.value.writeJson) = .ok amount ∧
      Json.readDocument Money.readJson (Source.ofChars balance.value.writeJson) = .ok balance := by
  refine ⟨?_, ?_, ?_⟩
  · exact readDocument_of_read inRange.readJson_writeJson
  · exact readDocument_of_read amount.readJson_writeJson
  · exact readDocument_of_read balance.readJson_writeJson

/-- A movement of the system in a leap second of the year 10000. -/
def lateEntry : Entry where
  id := ⟨-twoTo 63⟩
  account := none
  amount := ⟨maxMoney, by decide, by decide, by decide, by decide⟩
  kind := .debit
  createdAt := ⟨253402300859, 1500000000, by decide, by decide, by decide, by decide⟩

theorem lateEntry_inRange : lateEntry.InRange where
  id := by unfold IsInt64; decide
  account := by rintro account ⟨⟩

theorem documents_read_back_sample :
    String.ofList lateEntry.writeJson =
      "\x7b\"id\":-9223372036854775808,\"account_id\":null,\"amount\":\"9999999999999999.9999\"," ++
      "\"type\":\"debit\",\"created_at\":\"+10000-01-01T00:00:60.500Z\"\x7d" ∧
      lateEntry.InRange ∧ Json.readDocument Entry.readJson (Source.ofChars lateEntry.writeJson) =
        .ok lateEntry :=
  ⟨by decide +kernel, lateEntry_inRange,
    (documents_read_back lateEntry lateEntry_inRange lateEntry.amount .zero).1⟩

end Passbook
