import Passbook.Memory.Basic

/-!
Changes that units of work make to a ledger in memory. Until it is published, everything a unit does
is its own: it spares the committed ledger, what other units have staged, and the rows that other
units hold. This requires nothing of the unit.
-/

set_option autoImplicit false

namespace Passbook.Memory

variable {memory after later : Memory} {unit other : UnitId} {id : AccountId}

/-- The ledger with other orders for failures and delays. -/
def rearm (memory : Memory) (faults : FaultPoint → Bool)
    (delays : FaultPoint → Option Nat) : Memory :=
  { memory with faults, delays }

/-- Whether one ledger is the other but for the orders for failures and delays. -/
def Rearmed (memory after : Memory) : Prop := ∃ faults delays, after = memory.rearm faults delays

theorem Rearmed.refl (memory : Memory) : Rearmed memory memory :=
  ⟨memory.faults, memory.delays, rfl⟩

theorem Rearmed.trans (first : Rearmed memory after) (second : Rearmed after later) :
    Rearmed memory later := by
  obtain ⟨faults, delays, rfl⟩ := first
  obtain ⟨faults, delays, rfl⟩ := second
  exact ⟨faults, delays, rfl⟩

theorem Rearmed.units (rearmed : Rearmed memory after) : after.units = memory.units := by
  obtain ⟨faults, delays, rfl⟩ := rearmed
  rfl

theorem Rearmed.queues (rearmed : Rearmed memory after) : after.queues = memory.queues := by
  obtain ⟨faults, delays, rfl⟩ := rearmed
  rfl

theorem Rearmed.accounts (rearmed : Rearmed memory after) : after.accounts = memory.accounts := by
  obtain ⟨faults, delays, rfl⟩ := rearmed
  rfl

theorem Rearmed.entries (rearmed : Rearmed memory after) : after.entries = memory.entries := by
  obtain ⟨faults, delays, rfl⟩ := rearmed
  rfl

theorem Rearmed.lastUnit (rearmed : Rearmed memory after) : after.lastUnit = memory.lastUnit := by
  obtain ⟨faults, delays, rfl⟩ := rearmed
  rfl

theorem Rearmed.holds (rearmed : Rearmed memory after) :
    after.holds unit id = memory.holds unit id := by
  rw [Memory.holds, Memory.holds, rearmed.queues]

/-!
## Rows
-/

theorem holds_iff : memory.holds unit id = true ↔ (memory.queues id).head? = some unit := by
  simp [holds]

theorem holds_unique (one : memory.holds unit id = true) (two : memory.holds other id = true) :
    unit = other := by
  rw [holds_iff] at one two
  exact Option.some.inj (one.symm.trans two)

private theorem head?_filter {α : Type} {keep : α → Bool} {items : List α} {item : α}
    (first : items.head? = some item) (kept : keep item = true) :
    (items.filter keep).head? = some item := by
  cases items with
  | nil => cases first
  | cons head tail =>
      cases first
      simp [kept]

theorem queues_join (memory : Memory) (unit : UnitId) (id row : AccountId) :
    (memory.join unit id).queues row =
      if row = id ∧ unit ∉ memory.queues id then memory.queues id ++ [unit] else
        memory.queues row := by
  unfold join
  by_cases present : unit ∈ memory.queues id
  · simp [present]
  · by_cases same : row = id
    · subst row
      simp [present]
    · simp [present, same, assign_other]

theorem holds_join (held : memory.holds other id = true) (row : AccountId) :
    (memory.join unit row).holds other id = true := by
  rw [holds_iff] at held ⊢
  rw [queues_join]
  split
  · next joined =>
      rw [← joined.1, List.head?_append, held]
      rfl
  · exact held

theorem queues_leave (memory : Memory) (unit : UnitId) (id row : AccountId) :
    (memory.leave unit id).queues row =
      if row = id then (memory.queues id).filter (· != unit) else memory.queues row := by
  rfl

theorem holds_leave (different : other ≠ unit) (held : memory.holds other id = true)
    (row : AccountId) :
    (memory.leave unit row).holds other id = true := by
  rw [holds_iff] at held ⊢
  rw [queues_leave]
  split
  · next same =>
      subst row
      exact head?_filter held (by simpa using different)
  · exact held

theorem holds_discard (different : other ≠ unit) (held : memory.holds other id = true) :
    (memory.discard unit).holds other id = true := by
  rw [holds_iff] at held ⊢
  exact head?_filter held (by simpa using different)

theorem not_mem_queues_leave (memory : Memory) (unit : UnitId) (id : AccountId) :
    unit ∉ (memory.leave unit id).queues id := by
  simp [queues_leave]

theorem not_mem_queues_discard (memory : Memory) (unit : UnitId) (id : AccountId) :
    unit ∉ (memory.discard unit).queues id := by
  simp [discard]

private theorem not_holds_of_not_mem (absent : unit ∉ memory.queues id) :
    memory.holds unit id = false := by
  rw [Memory.holds, beq_eq_false_iff_ne]
  exact fun same => absent (List.mem_of_mem_head? same)

theorem not_holds_leave (memory : Memory) (unit : UnitId) (id : AccountId) :
    (memory.leave unit id).holds unit id = false :=
  not_holds_of_not_mem (not_mem_queues_leave memory unit id)

theorem not_holds_discard (memory : Memory) (unit : UnitId) (id : AccountId) :
    (memory.discard unit).holds unit id = false :=
  not_holds_of_not_mem (not_mem_queues_discard memory unit id)

/-!
## What a unit has staged
-/

@[simp] theorem units_stage_same (memory : Memory) (unit : UnitId) (staged : Staged) :
    (memory.stage unit staged).units unit = some staged := by
  simp [stage]

theorem units_stage_other (memory : Memory) (staged : Staged) (different : other ≠ unit) :
    (memory.stage unit staged).units other = memory.units other := by
  simp [stage, assign_other, different]

@[simp] theorem units_discard_same (memory : Memory) (unit : UnitId) :
    (memory.discard unit).units unit = none := by
  simp [discard]

theorem units_discard_other (memory : Memory) (different : other ≠ unit) :
    (memory.discard unit).units other = memory.units other := by
  simp [discard, assign_other, different]

theorem staged_of_units {staged : Staged} (known : memory.units unit = some staged) :
    memory.staged unit = staged := by
  simp [Memory.staged, known]

theorem staged_congr (same : after.units unit = memory.units unit) :
    after.staged unit = memory.staged unit := by
  rw [Memory.staged, Memory.staged, same]

theorem Rearmed.staged (rearmed : Rearmed memory after) (unit : UnitId) :
    after.staged unit = memory.staged unit :=
  staged_congr (congrFun rearmed.units unit)

@[simp] theorem staged_stage (memory : Memory) (unit : UnitId) (staged : Staged) :
    (memory.stage unit staged).staged unit = staged :=
  staged_of_units (units_stage_same memory unit staged)

theorem staged_create (memory : Memory) (unit : UnitId) (registration : Registration) :
    (memory.create unit registration).2.staged unit = { memory.staged unit with
      created :=
        (memory.staged unit).created ++ [registration.account ⟨memory.lastAccount + 1⟩] } :=
  staged_stage memory unit _

theorem staged_setBalance (memory : Memory) (unit : UnitId) (id : AccountId) (balance : Money) :
    (memory.setBalance unit id balance).staged unit =
      { memory.staged unit with
        balances := assign (memory.staged unit).balances id (some balance) } :=
  staged_stage memory unit _

theorem staged_append (memory : Memory) (unit : UnitId) (draft : EntryDraft)
    (time : Time.Timestamp) :
    (memory.append unit draft time).2.staged unit = { memory.staged unit with
      entries := (memory.staged unit).entries ++ [draft.entry ⟨memory.lastEntry + 1⟩ time] } :=
  staged_stage memory unit _

@[simp] theorem units_join (memory : Memory) (unit : UnitId) (id : AccountId) :
    (memory.join unit id).units = memory.units := by
  unfold join
  split <;> rfl

@[simp] theorem accounts_join (memory : Memory) (unit : UnitId) (id : AccountId) :
    (memory.join unit id).accounts = memory.accounts := by
  unfold join
  split <;> rfl

@[simp] theorem entries_join (memory : Memory) (unit : UnitId) (id : AccountId) :
    (memory.join unit id).entries = memory.entries := by
  unfold join
  split <;> rfl

/-!
## Acts of a unit
-/

/-- One change that an open unit makes before it ends. Orders for failures and delays may be used
up. -/
inductive Act (unit : UnitId) (memory : Memory) : Memory → Prop
  | rearm (faults : FaultPoint → Bool) (delays : FaultPoint → Option Nat) :
      Act unit memory (memory.rearm faults delays)
  | join (id : AccountId) : Act unit memory (memory.join unit id)
  | leave (id : AccountId) : Act unit memory (memory.leave unit id)
  | create (registration : Registration)
      (free : memory.isTaken unit registration.username = false) :
      Act unit memory (memory.create unit registration).2
  | setBalance (id : AccountId) (balance : Money) (held : memory.holds unit id = true)
      (seen : (memory.view unit id).isSome) :
      Act unit memory (memory.setBalance unit id balance)
  | append (draft : EntryDraft) (time : Time.Timestamp)
      (seen : ∀ id ∈ draft.account, (memory.view unit id).isSome) :
      Act unit memory (memory.append unit draft time).2

/-- Changes that an open unit makes before it ends, one after the other. -/
inductive Acts (unit : UnitId) (memory : Memory) : Memory → Prop
  | refl : Acts unit memory memory
  | tail {between after : Memory} (earlier : Acts unit memory between)
      (act : Act unit between after) :
      Acts unit memory after

theorem Act.acts (act : Act unit memory after) : Acts unit memory after := .tail .refl act

theorem Rearmed.acts (rearmed : Rearmed memory after) (unit : UnitId) : Acts unit memory after := by
  obtain ⟨faults, delays, rfl⟩ := rearmed
  exact (Act.rearm faults delays).acts

/-- What a change by one unit leaves to the others. -/
structure Spares (unit : UnitId) (memory after : Memory) : Prop where
  units : ∀ other, other ≠ unit → after.units other = memory.units other
  holds : ∀ other, other ≠ unit → ∀ id, memory.holds other id = true → after.holds other id = true

theorem Spares.refl (unit : UnitId) (memory : Memory) : Spares unit memory memory :=
  ⟨fun _ _ => rfl, fun _ _ _ held => held⟩

theorem Spares.trans (first : Spares unit memory after) (second : Spares unit after later) :
    Spares unit memory later where
  units other different := (second.units other different).trans (first.units other different)
  holds other different id held :=
    second.holds other different id (first.holds other different id held)

theorem spares_stage (memory : Memory) (unit : UnitId) (staged : Staged) :
    Spares unit memory (memory.stage unit staged) :=
  ⟨fun _ different => units_stage_other memory staged different, fun _ _ _ held => held⟩

theorem spares_publish (memory : Memory) (unit : UnitId) :
    Spares unit memory (memory.publish unit) :=
  ⟨fun _ different => units_discard_other _ different,
    fun _ different _ held => holds_discard different held⟩

theorem Act.spares (act : Act unit memory after) : Spares unit memory after := by
  cases act with
  | rearm faults delays => exact ⟨fun _ _ => rfl, fun _ _ _ held => held⟩
  | join row => exact ⟨fun _ _ => by rw [units_join], fun _ _ _ held => holds_join held row⟩
  | leave row => exact ⟨fun _ _ => rfl, fun _ different _ held => holds_leave different held row⟩
  | create registration free =>
      have spared := spares_stage memory unit
        { memory.staged unit with
          created :=
            (memory.staged unit).created ++ [registration.account ⟨memory.lastAccount + 1⟩] }
      exact ⟨spared.units, spared.holds⟩
  | setBalance row balance held seen => exact spares_stage memory unit _
  | append draft time seen =>
      have spared := spares_stage memory unit
        { memory.staged unit with
          entries := (memory.staged unit).entries ++ [draft.entry ⟨memory.lastEntry + 1⟩ time] }
      exact ⟨spared.units, spared.holds⟩

theorem Acts.spares (acts : Acts unit memory after) : Spares unit memory after := by
  induction acts with
  | refl => exact .refl unit memory
  | tail _ act spared => exact spared.trans act.spares

theorem Act.mem_queues (act : Act unit memory after) (different : other ≠ unit)
    (member : other ∈ after.queues id) :
    other ∈ memory.queues id := by
  cases act with
  | join row =>
      rw [queues_join] at member
      split at member
      · next joined =>
          rw [joined.1]
          exact (List.mem_append.mp member).resolve_right fun last =>
            different (List.mem_singleton.mp last)
      · exact member
  | leave row =>
      rw [queues_leave] at member
      split at member
      · next same =>
          rw [same]
          exact (List.mem_filter.mp member).1
      · exact member
  | rearm faults delays => exact member
  | create registration free => exact member
  | setBalance row balance held seen => exact member
  | append draft time seen => exact member

/-- What a unit does before it ends is not seen in the committed ledger. -/
theorem Act.unpublished (act : Act unit memory after) :
    after.accounts = memory.accounts ∧ after.entries = memory.entries := by
  cases act with
  | join row => exact ⟨accounts_join memory unit row, entries_join memory unit row⟩
  | _ => exact ⟨rfl, rfl⟩

theorem Acts.unpublished (acts : Acts unit memory after) :
    after.accounts = memory.accounts ∧ after.entries = memory.entries := by
  induction acts with
  | refl => exact ⟨rfl, rfl⟩
  | tail _ act same => exact ⟨act.unpublished.1.trans same.1, act.unpublished.2.trans same.2⟩

/-- The committed accounts and entries. -/
def tables (memory : Memory) : List Account × List Entry := (memory.accounts, memory.entries)

theorem Acts.tables (acts : Acts unit memory after) : after.tables = memory.tables :=
  Prod.ext acts.unpublished.1 acts.unpublished.2

theorem Rearmed.tables (rearmed : Rearmed memory after) : after.tables = memory.tables :=
  Prod.ext rearmed.accounts rearmed.entries

theorem Act.lastUnit (act : Act unit memory after) : after.lastUnit = memory.lastUnit := by
  cases act with
  | join row =>
      unfold Memory.join
      split <;> rfl
  | _ => rfl

theorem Acts.lastUnit (acts : Acts unit memory after) : after.lastUnit = memory.lastUnit := by
  induction acts with
  | refl => rfl
  | tail _ act same => exact act.lastUnit.trans same

theorem Act.isOpen (act : Act unit memory after) (isOpen : memory.units unit ≠ none) :
    after.units unit ≠ none := by
  cases act with
  | join row => rwa [units_join]
  | rearm faults delays => exact isOpen
  | leave row => exact isOpen
  | create registration free => simp [Memory.create]
  | setBalance row balance held seen => simp [Memory.setBalance]
  | append draft time seen => simp [Memory.append]

theorem Acts.isOpen (acts : Acts unit memory after) (isOpen : memory.units unit ≠ none) :
    after.units unit ≠ none := by
  induction acts with
  | refl => exact isOpen
  | tail _ act still => exact act.isOpen still

end Passbook.Memory
