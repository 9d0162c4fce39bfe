import Passbook.Database.Store
import Passbook.Proofs.Database.Column
import Passbook.Proofs.Decimal.Judgement
import Passbook.Proofs.Decimal.Text

/-!
What is read of the rows that come back from what was written. The two are separate code, tied
together only by the type of a column, which has room for all amounts and balances and pads them to
four fractional digits. Of all rows that such a column can hold, the ones that are read as entries
are those that entries are written as.
-/

set_option autoImplicit false

namespace Passbook

namespace EntryKind

variable {text : String} {kind : EntryKind}

theorem read_name (kind : EntryKind) : read kind.name = .ok kind := by
  cases kind <;> decide

theorem name_of_read (found : read text = .ok kind) : text = kind.name := by
  simp only [read] at found
  split at found
  · next credit =>
      cases found
      exact credit
  · split at found
    · next debit =>
        cases found
        exact debit
    · cases found

theorem read_unknown {refusal : LedgerError} (refused : read text = .error refusal) :
    (∀ kind : EntryKind, text ≠ kind.name) ∧
      refusal = .validation ("unknown transaction type '" ++ text ++ "'") := by
  constructor
  · rintro kind rfl
    rw [read_name] at refused
    cases refused
  · simp only [read] at refused
    split at refused
    · cases refused
    · split at refused
      · cases refused
      · exact (Except.error.inj refused).symm

theorem exists_name_iff :
    (∃ kind : EntryKind, text = kind.name) ↔ text = "credit" ∨ text = "debit" := by
  constructor
  · rintro ⟨kind, rfl⟩
    cases kind
    · exact .inl rfl
    · exact .inr rfl
  · rintro (rfl | rfl)
    · exact ⟨.credit, rfl⟩
    · exact ⟨.debit, rfl⟩

end EntryKind

namespace Database

open Time (Timestamp)

variable {store : Decimal → Option Decimal} {value stored : Decimal}

/-!
## Columns of money
-/

/-- The digits of the columns that hold amounts and balances. -/
def moneyPrecision : ℕ := 20

/-- Whether a decimal is another one, written with four fractional digits. -/
structure Padded (value stored : Decimal) : Prop where
  exact : stored.toRat = value.toRat
  scale : stored.scale = moneyScale

theorem NumericColumn.holds_moderate (column : NumericColumn moneyPrecision moneyScale store)
    (moderate : value.Moderate) :
    ∃ stored, store value = some stored ∧ Padded value stored := by
  have small : |value.toRat| < 10 ^ (moneyPrecision - moneyScale) :=
    (abs_le.mpr ⟨moderate.lower, moderate.upper⟩).trans_lt Decimal.PlainText.maxMoney_lt
  obtain ⟨stored, kept, exact, scale⟩ :=
    column.holds (Decimal.unitsAt_cast value moderate.fine).symm small
  exact ⟨stored, kept, exact, scale⟩

/-!
## Rows of entries
-/

namespace EntryRow

variable {row : EntryRow} {entry : Entry} {error : StoreError}

/-- The row of an entry with a given amount in it. -/
def written (entry : Entry) (amount : Decimal) : EntryRow :=
  ⟨entry.id.value, entry.account.map AccountId.value, amount, entry.kind.name, entry.createdAt⟩

/-- Why a row is not read as an entry. -/
inductive Refused (row : EntryRow) : StoreError → Prop
  | amount (defect : Amount.Defect) (first : defect.IsFirst row.amount.toRat) :
      Refused row (row.invalid "amount" (.validation defect.reason))
  | kind (accepted : ∃ amount, Amount.ofDecimal row.amount = .ok amount)
      (unknown : ∀ kind : EntryKind, row.kind ≠ kind.name) :
      Refused row (row.invalid "type"
        (.validation ("unknown transaction type '" ++ row.kind ++ "'")))

theorem entry_eq_ok {amount : Amount} {kind : EntryKind}
    (accepted : Amount.ofDecimal row.amount = .ok amount)
    (read : EntryKind.read row.kind = .ok kind) :
    row.entry = .ok ⟨⟨row.id⟩, row.account.map AccountId.mk, amount, kind, row.createdAt⟩ := by
  rw [EntryRow.entry, accepted, read]
  rfl

/-- A row is read as the entry that it was written for, whatever the scale of its amount. -/
theorem entry_written {amount : Decimal} (exact : amount.toRat = entry.amount.value.toRat) :
    (written entry amount).entry = .ok entry := by
  rw [entry_eq_ok (Amount.ofDecimal_eq exact) (EntryKind.read_name entry.kind)]
  simp [written, Option.map_map, Function.comp_def]

theorem entry_cases (row : EntryRow) :
    (∃ entry, row.entry = .ok entry ∧ row = written entry row.amount ∧
      row.amount.toRat = entry.amount.value.toRat) ∨
      ∃ error, row.entry = .error error ∧ row.Refused error := by
  cases judged : Amount.ofDecimal row.amount with
  | error refusal =>
      obtain ⟨defect, rfl⟩ := Amount.exists_defect judged
      refine .inr ⟨row.invalid "amount" (.validation defect.reason), ?_,
        .amount defect (Amount.ofDecimal_error_iff.mp judged)⟩
      rw [EntryRow.entry, judged]
      rfl
  | ok amount =>
      cases read : EntryKind.read row.kind with
      | error refusal =>
          obtain ⟨unknown, rfl⟩ := EntryKind.read_unknown read
          refine .inr ⟨row.invalid "type" _, ?_, .kind ⟨amount, judged⟩ unknown⟩
          rw [EntryRow.entry, judged, read]
          rfl
      | ok kind =>
          refine .inl ⟨_, entry_eq_ok judged read, ?_, (Amount.ofDecimal_ok_iff.mp judged).symm⟩
          simp [written, Option.map_map, Function.comp_def, ← EntryKind.name_of_read read]

theorem entry_ok_iff :
    row.entry = .ok entry ↔ row = written entry row.amount ∧
      row.amount.toRat = entry.amount.value.toRat := by
  constructor
  · intro found
    obtain ⟨other, read, columns, exact⟩ | ⟨error, refused, -⟩ := entry_cases row
    · cases found.symm.trans read
      exact ⟨columns, exact⟩
    · cases found.symm.trans refused
  · rintro ⟨columns, exact⟩
    rw [columns]
    exact entry_written exact

theorem refused_of_entry (failed : row.entry = .error error) : row.Refused error := by
  obtain ⟨entry, read, -⟩ | ⟨other, refused, why⟩ := entry_cases row
  · cases failed.symm.trans read
  · cases failed.symm.trans refused
    exact why

theorem Refused.fault (refused : row.Refused error) : error.fault = .backend := by
  cases refused <;> rfl

/-- The rows that are read as entries are those with the number of an amount and the name of a
direction. -/
theorem decodes_iff : (∃ entry, row.entry = .ok entry) ↔
    (0 < row.amount.toRat ∧ row.amount.toRat ≤ maxMoney.toRat ∧ InUnits row.amount.toRat) ∧
      (row.kind = "credit" ∨ row.kind = "debit") := by
  rw [← Amount.accepted_iff, ← EntryKind.exists_name_iff]
  constructor
  · rintro ⟨entry, read⟩
    obtain ⟨columns, exact⟩ := entry_ok_iff.mp read
    exact ⟨⟨entry.amount, Amount.ofDecimal_eq exact⟩, entry.kind, congrArg EntryRow.kind columns⟩
  · rintro ⟨⟨amount, accepted⟩, kind, named⟩
    exact ⟨_, entry_eq_ok accepted (named ▸ EntryKind.read_name kind)⟩

end EntryRow

theorem fault_of_readEntry {row : Row} {error : StoreError}
    (failed : readEntry row = .error error) : error.fault = .backend := by
  rw [readEntry] at failed
  split at failed
  · exact (EntryRow.refused_of_entry failed).fault
  · cases failed
    rfl

/-!
## Rows of a table
-/

/-- A value as a row of a table shows it, in which numbers stand in columns of decimals. -/
def Parameter.field? (store : Decimal → Option Decimal) : Parameter → Option Field
  | integer value => some (.integer value)
  | text value => some (.text value)
  | number value => (store value).map fun stored => .text stored.render
  | null => some .null

/-- The row that an insert returns of the values sent with it, between the identifier and the time
that the database gives. -/
def inserted? (store : Decimal → Option Decimal) (id micros : Int)
    (parameters : List Parameter) : Option Row := do
  let fields ← parameters.mapM (Parameter.field? store)
  return .integer id :: fields ++ [.integer micros]

/-- The row of an account, with the balance that was sent with the statement that sets it. -/
def updated? (store : Decimal → Option Decimal) (username passwordHash : String) :
    (parameters : List Parameter) → Option Row
  | [id, balance] => do
      let id ← id.field? store
      let balance ← balance.field? store
      return [id, .text username, .text passwordHash, balance]
  | _ => none

theorem readEntry_eq {id micros : Int} {account : Field} {owner : Option Int} {text kind : String}
    {amount : Decimal} {createdAt : Timestamp} (owned : account.integerOrNull? = some owner)
    (number : Decimal.read text.toList = some amount)
    (time : Timestamp.ofMicros? micros = some createdAt) :
    readEntry [.integer id, account, .text text, .text kind, .integer micros] =
      EntryRow.entry ⟨id, owner, amount, kind, createdAt⟩ := by
  simp [readEntry, EntryRow.ofRow?, Field.integer?, Field.number?, Field.text?, Field.time?,
    owned, number, time]

theorem readAccount_eq {id : Int} {username passwordHash text : String} {balance : Decimal}
    (number : Decimal.read text.toList = some balance) :
    readAccount [.integer id, .text username, .text passwordHash, .text text] =
      .ok (AccountRow.account ⟨id, username, passwordHash, balance⟩) := by
  simp [readAccount, AccountRow.ofRow?, Field.integer?, Field.number?, Field.text?, number]

theorem exists_read_render (stored : Decimal) :
    ∃ read, Decimal.read stored.render.toList = some read ∧ read.toRat = stored.toRat := by
  rw [Decimal.render, String.toList_ofList]
  exact Decimal.exists_read_toChars stored

/-- What was sent with an insert comes back as the entry that was drafted. -/
theorem readEntry_inserted {draft : EntryDraft} {id : EntryId} {micros : Int}
    {createdAt : Timestamp} (kept : store draft.amount.value = some stored)
    (padded : Padded draft.amount.value stored)
    (time : Timestamp.ofMicros? micros = some createdAt) :
    ∃ row, (Statement.append draft).parameters?.bind (inserted? store id.value micros) = some row ∧
      readEntry row = .ok (draft.entry id createdAt) := by
  obtain ⟨read, number, same⟩ := exists_read_render stored
  have decoded : (EntryRow.written (draft.entry id createdAt) read).entry =
      .ok (draft.entry id createdAt) :=
    EntryRow.entry_written (same.trans padded.exact)
  obtain ⟨account, amount, kind⟩ := draft
  cases account with
  | none =>
      refine ⟨[.integer id.value, .null, .text stored.render, .text kind.name, .integer micros], ?_,
        (readEntry_eq rfl number time).trans decoded⟩
      simp [Statement.parameters?, inserted?, Parameter.field?, kept]
  | some account =>
      refine ⟨[.integer id.value, .integer account.value, .text stored.render, .text kind.name,
        .integer micros], ?_, (readEntry_eq rfl number time).trans decoded⟩
      simp [Statement.parameters?, inserted?, Parameter.field?, kept]

theorem readAccount_updated {balance : Money} (id : AccountId) (username passwordHash : String)
    (kept : store balance.value = some stored) (padded : Padded balance.value stored) :
    ∃ row, (Statement.setBalance id balance).parameters?.bind
      (updated? store username passwordHash) = some row ∧
      readAccount row = .ok ⟨id, username, passwordHash, balance⟩ := by
  obtain ⟨read, number, same⟩ := exists_read_render stored
  refine ⟨[.integer id.value, .text username, .text passwordHash, .text stored.render], ?_, ?_⟩
  · simp [Statement.parameters?, updated?, Parameter.field?, kept]
  · rw [readAccount_eq number, AccountRow.account, Money.ofDecimal_eq (same.trans padded.exact)]

theorem ask_append {resolution : ℕ} {draft : EntryDraft} {world : World Pool} {row : Row}
    {answer : Answer} {pool : Pool} (sent : world.store.send (.append draft) = (.ok answer, pool))
    (returned : answer.rows = [row]) :
    (ask resolution (.append draft) world).1 = readEntry row := by
  simp only [ask, query, sent, readOne, returned]

theorem ask_find {resolution : ℕ} {id : AccountId} {world : World Pool} {row : Row}
    {answer : Answer} {pool : Pool} (sent : world.store.send (.find id) = (.ok answer, pool))
    (returned : answer.rows = [row]) :
    (ask resolution (.find id) world).1 = (readAccount row).map some := by
  simp only [ask, query, sent, readFound, returned]

/-- What comes back of amounts and balances, through columns that keep what is given to `store`. -/
structure Faithful (store : Decimal → Option Decimal) : Prop where
  /-- Columns of money keep every amount, unrounded. -/
  amounts : ∀ amount : Amount, ∃ stored, store amount.value = some stored ∧
    Padded amount.value stored
  /-- A row with what was kept of the amount of a draft is read as the entry of that draft. -/
  entries : ∀ (draft : EntryDraft) (id : EntryId) (createdAt : Timestamp) (stored : Decimal),
    store draft.amount.value = some stored →
    EntryRow.entry ⟨id.value, draft.account.map AccountId.value, stored, draft.kind.name,
      createdAt⟩ = .ok (draft.entry id createdAt)
  /-- So is the row that the insert of a draft returns, and it is the store's answer. -/
  inserted : ∀ (draft : EntryDraft) (id : EntryId) (micros : Int) (createdAt : Timestamp),
    Timestamp.ofMicros? micros = some createdAt →
    ∃ row, (Statement.append draft).parameters?.bind (inserted? store id.value micros) = some row ∧
      readEntry row = .ok (draft.entry id createdAt) ∧
      ∀ (resolution : ℕ) (world : World Pool) (answer : Answer) (pool : Pool),
        world.store.send (.append draft) = (.ok answer, pool) →
        answer.rows = [row] → (ask resolution (.append draft) world).1 =
          .ok (draft.entry id createdAt)
  /-- Columns of money keep every balance that can be stored, and a row with it is read as an
  account with this balance. -/
  balances : ∀ balance : Money, balance.Storable → ∃ stored, store balance.value = some stored ∧
    Padded balance.value stored ∧
    ∀ (id : AccountId) (username passwordHash : String),
      AccountRow.account ⟨id.value, username, passwordHash, stored⟩ =
        ⟨id, username, passwordHash, balance⟩
  /-- So is the row that an update leaves behind. -/
  updated : ∀ balance : Money, balance.Storable →
    ∀ (id : AccountId) (username passwordHash : String),
    ∃ row, (Statement.setBalance id balance).parameters?.bind
    (updated? store username passwordHash) = some row ∧
      readAccount row = .ok ⟨id, username, passwordHash, balance⟩ ∧
      ∀ (resolution : ℕ) (world : World Pool) (answer : Answer) (pool : Pool),
        world.store.send (.find id) = (.ok answer, pool) →
        answer.rows = [row] → (ask resolution (.find id) world).1 =
          .ok (some ⟨id, username, passwordHash, balance⟩)
  decodes_iff : ∀ row : EntryRow, (∃ entry, row.entry = .ok entry) ↔
    (0 < row.amount.toRat ∧ row.amount.toRat ≤ maxMoney.toRat ∧ InUnits row.amount.toRat) ∧
      (row.kind = "credit" ∨ row.kind = "debit")
  /-- Of the rows with four fractional digits, an entry is read exactly from the one it is written
  as. -/
  image : ∀ (row : EntryRow) (entry : Entry), row.amount.scale = moneyScale →
    (row.entry = .ok entry ↔ row = EntryRow.written entry row.amount ∧
      store entry.amount.value = some row.amount)
  /-- Every other row is a fault of the database, which says what is wrong with the row. -/
  refused : ∀ (row : EntryRow) (error : StoreError), row.entry = .error error →
    error.fault = .backend ∧ row.Refused error
  unread : ∀ (row : Row) (error : StoreError), readEntry row = .error error → error.fault = .backend

/-- Rows are read as exactly what was written, if columns of twenty digits, four of them after the
point, keep numbers as declared. -/
theorem rows_decode_written (column : NumericColumn moneyPrecision moneyScale store) :
    Faithful store where
  amounts amount := column.holds_moderate amount.moderate
  entries draft id createdAt stored kept := by
    obtain ⟨same, found, padded⟩ := column.holds_moderate draft.amount.moderate
    cases kept.symm.trans found
    have decoded : (EntryRow.written (draft.entry id createdAt) stored).entry =
        .ok (draft.entry id createdAt) :=
      EntryRow.entry_written padded.exact
    exact decoded
  inserted draft id micros createdAt time := by
    obtain ⟨stored, kept, padded⟩ := column.holds_moderate draft.amount.moderate
    obtain ⟨row, returned, read⟩ := readEntry_inserted kept padded time
    refine ⟨row, returned, read, fun resolution world answer pool sent answered => ?_⟩
    rw [ask_append sent answered, read]
  balances balance storable := by
    obtain ⟨stored, kept, padded⟩ := column.holds_moderate storable.moderate
    refine ⟨stored, kept, padded, fun id username passwordHash => ?_⟩
    rw [AccountRow.account, Money.ofDecimal_eq padded.exact]
  updated balance storable id username passwordHash := by
    obtain ⟨stored, kept, padded⟩ := column.holds_moderate storable.moderate
    obtain ⟨row, left, read⟩ := readAccount_updated id username passwordHash kept padded
    refine ⟨row, left, read, fun resolution world answer pool sent answered => ?_⟩
    rw [ask_find sent answered, read]
    rfl
  decodes_iff _ := EntryRow.decodes_iff
  image row entry places := by
    obtain ⟨stored, kept, padded⟩ := column.holds_moderate entry.amount.moderate
    rw [EntryRow.entry_ok_iff, kept, Option.some.injEq]
    refine and_congr_right fun columns => ⟨fun exact => ?_, fun same => same ▸ padded.exact⟩
    -- Of all decimals with four fractional digits only one denotes the number, as it is not zero.
    have nonzero : entry.amount.value.toRat ≠ 0 := entry.amount.toRat_pos.ne'
    have one : stored.UnsignedZero := Decimal.unsignedZero_of_toRat_ne_zero (padded.exact ▸ nonzero)
    have two : row.amount.UnsignedZero := Decimal.unsignedZero_of_toRat_ne_zero (exact ▸ nonzero)
    exact one.ext two (padded.scale.trans places.symm) (padded.exact.trans exact.symm)
  refused row error failed :=
    ⟨(EntryRow.refused_of_entry failed).fault, EntryRow.refused_of_entry failed⟩
  unread _ _ := fault_of_readEntry

/-- One half for one account. -/
def sampleDraft : EntryDraft := ⟨some ⟨7⟩, sampleHalf, .credit⟩

/-- The row of that draft, as the forty-first of its table. -/
def sampleRow : Row := [.integer 41, .integer 7, .text "0.5000", .text "credit", .integer 0]

/-- A unit of work on a database that returns this row whenever it is asked. -/
def sampleReturning : World Pool :=
  ⟨0, [], { Pool.fresh false with
    line := .used false, server := ⟨fun _ => some (.rows [sampleRow]), []⟩ }, []⟩

/-- The amount comes back with four fractional digits and is read as the one that was sent. -/
theorem rows_decode_written_sample :
    NumericColumn moneyPrecision moneyScale (numericColumn moneyPrecision moneyScale) ∧
    Timestamp.ofMicros? 0 = some .epoch ∧
      readEntry sampleRow = .ok (sampleDraft.entry ⟨41⟩ .epoch) ∧
    (ask 1 (.append sampleDraft) sampleReturning).1 = .ok (sampleDraft.entry ⟨41⟩ .epoch) := by
  have column : NumericColumn moneyPrecision moneyScale (numericColumn moneyPrecision moneyScale) :=
    numericColumn_numeric (by decide) (by decide)
  have time : Timestamp.ofMicros? 0 = some .epoch := by decide +kernel
  have returned : (Statement.append sampleDraft).parameters?.bind
      (inserted? (numericColumn moneyPrecision moneyScale) 41 0) = some sampleRow := by
    decide +kernel
  obtain ⟨row, same, read, answered⟩ :=
    (rows_decode_written column).inserted sampleDraft ⟨41⟩ 0 .epoch time
  cases returned.symm.trans same
  exact ⟨column, time, read, answered 1 sampleReturning _ _ rfl rfl⟩

end Database

end Passbook
