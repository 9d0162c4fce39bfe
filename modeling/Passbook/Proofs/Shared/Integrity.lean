import Passbook.Proofs.Shared.Issued
import Passbook.Proofs.Shared.Reconciled

/-!
Integrity of a shared ledger. Whatever clients ask of their units of work, and however these end,
the committed names differ and are good ones, no number is handed out twice, no entry belongs to an
account that does not exist, and no balance is negative.
-/

set_option autoImplicit false

namespace Passbook

theorem Money.toRat_nonneg {balance : Money} (notNegative : balance.isNegative = false) :
    0 ≤ balance.value.toRat := by
  rw [Decimal.toRat_eq]
  rw [isNegative, Bool.and_eq_false_iff] at notNegative
  rcases notNegative with positive | zero
  · rw [positive, if_neg Bool.false_ne_true, one_mul]
    exact div_nonneg (Nat.cast_nonneg _) (pow_nonneg (by norm_num) _)
  · have empty : balance.value.mantissa = 0 := by simpa [Decimal.isZero] using zero
    rw [empty, Nat.cast_zero, zero_div, mul_zero]

namespace Shared

open Memory (Progress Rearmed Intact Solvent)

variable {state after : State} {memory left : Memory}

/-!
## Tables
-/

theorem Effect.intact {one two : Option UnitId} (effect : Effect memory one two left)
    (sound : memory.Sound) (intact : memory.Intact) : left.Intact := by
  cases effect with
  | idles rearmed => exact intact.rearmed rearmed
  | opens rearmed => exact (intact.rearmed rearmed).openUnit (sound.rearmed rearmed)
  | acts acts => exact intact.acts acts
  | drops acts => exact (intact.acts acts).discard _
  | publishes rearmed free => exact (intact.rearmed rearmed).publish free

theorem State.intact_advance (owned : state.Owned) (intact : state.memory.Intact)
    (advance : state.Advance after) :
    after.memory.Intact := by
  cases advance with
  | quiet rearmed clients count => exact intact.rearmed rearmed
  | arrives fresh => exact intact
  | steps known effect clients count => exact effect.intact owned.sound intact

theorem intact_run (actions : List Action) : (run actions).memory.Intact := by
  rw [← List.nil_append actions]
  refine run_onwards (fun state => state.memory.Intact) (asks_anything actions)
    Memory.intact_empty ?_
  exact fun state after owned intact transition =>
    State.intact_advance owned intact transition.advance

/-!
## Balances
-/

/-- Whether no negative balance is committed or staged. -/
structure Solid (memory : Memory) : Prop where
  accounts : ∀ account ∈ memory.accounts, account.balance.isNegative = false
  units : ∀ unit, Solvent memory unit

/-- Whether no negative balance is committed, staged, or waiting for its row. -/
structure State.Sober (state : State) : Prop where
  solid : Solid state.memory
  checks : ∀ id client, state.clients id = some client →
    ∀ trial ∈ client.trial?, trial.progress.Checks trial.request

theorem Solid.rearmed (solid : Solid memory) (rearmed : Rearmed memory left) : Solid left where
  accounts := rearmed.accounts.symm ▸ solid.accounts
  units unit := (solid.units unit).congr (congrFun rearmed.units unit)

private theorem Solid.units_closed (solid : Solid memory) {unit : UnitId}
    (closed : left.units unit = none)
    (others : ∀ other, other ≠ unit → left.units other = memory.units other) (other : UnitId) :
    Solvent left other := by
  by_cases same : other = unit
  · refine Memory.solvent_of_empty ?_
    rw [same, Memory.staged, closed]
    rfl
  · exact (solid.units other).congr (others other same)

theorem Solid.settles (solid : Solid memory) (settles : Settles memory left) : Solid left := by
  cases settles with
  | rearms rearmed => exact solid.rearmed rearmed
  | @opens before rearmed =>
      refine ⟨(solid.rearmed rearmed).accounts, fun unit => ?_⟩
      by_cases new : unit = ⟨before.lastUnit + 1⟩
      · refine Memory.solvent_of_empty ?_
        rw [new]
        exact Memory.staged_of_units (assign_same _ _ _)
      · exact ((solid.rearmed rearmed).units unit).congr (assign_other _ _ new)
  | leaves unit id => exact ⟨solid.accounts, fun other => (solid.units other).congr rfl⟩
  | discards rearmed unit =>
      have still := solid.rearmed rearmed
      exact ⟨still.accounts, still.units_closed (Memory.units_discard_same _ unit)
        fun _ different => Memory.units_discard_other _ different⟩
  | publishes rearmed unit =>
      have still := solid.rearmed rearmed
      exact ⟨(still.units unit).publish still.accounts,
        still.units_closed (Memory.units_discard_same _ unit) fun _ different =>
        Memory.units_discard_other _ different⟩

/-- What a request that has been checked leaves of the balances, and of those that wait for their
rows. -/
theorem Solid.tryAsk {world world' : World Memory} {unit : UnitId} {request : Request}
    {progress : Progress} {result : Poll Progress (Except StoreError request.Reply)}
    (solid : Solid world.store) (checks : progress.Checks request)
    (tried : Memory.tryAsk unit request progress world = (result, world')) :
    Solid world'.store ∧ ∀ later, result = .waiting later → later.Checks request := by
  have solvent := (solid.units unit).tryAsk checks
  have acts := Memory.tryAsk_acts unit request progress world
  rw [tried] at solvent acts
  refine ⟨⟨acts.unpublished.1.symm ▸ solid.accounts, fun other => ?_⟩, ?_⟩
  · by_cases same : other = unit
    · exact same ▸ solvent
    · exact (solid.units other).congr (acts.spares.units other same)
  · rintro later rfl
    exact checks.waits (congrArg Prod.fst tried)

private theorem checks_fresh (request : Request) : Progress.fresh.Checks request :=
  fun _ _ _ _ queued => by cases queued

theorem Solid.trying {world : World Memory} {tries next : Option Trial} (solid : Solid world.store)
    (checks : ∀ trial ∈ tries, trial.progress.Checks trial.request)
    (trying : Trying world tries next left) :
    Solid left ∧ ∀ trial ∈ next, trial.progress.Checks trial.request := by
  have started : (∀ trial ∈ next, trial.progress = .fresh) →
      ∀ trial ∈ next, trial.progress.Checks trial.request := by
    intro fresh trial member
    rw [fresh trial member]
    exact checks_fresh _
  cases trying with
  | settles fresh settles => exact ⟨solid.settles settles, started fresh⟩
  | waits tried =>
      obtain ⟨still, waits⟩ := solid.tryAsk (checks _ rfl) tried
      refine ⟨still, fun trial member => ?_⟩
      cases member
      exact waits _ rfl
  | hears tried fresh settles =>
      exact ⟨(solid.tryAsk (checks _ rfl) tried).1.settles settles, started fresh⟩

private theorem State.Sober.arrives (sober : state.Sober) {client : Client}
    (idle : client.trial? = none) :
    (state.welcome client).Sober where
  solid := sober.solid
  checks id other knows := by
    by_cases new : id = ⟨state.lastClient + 1⟩
    · simp only [State.welcome, new, assign_same] at knows
      cases knows
      rw [idle]
      exact fun trial member => by cases member
    · simp only [State.welcome, assign_other _ _ new] at knows
      exact sober.checks id other knows

private theorem State.Sober.steps (sober : state.Sober) {id : ClientId} {next : Client}
    (solid : Solid after.memory) (clients : after.clients = assign state.clients id (some next))
    (checks : ∀ trial ∈ next.trial?, trial.progress.Checks trial.request) : after.Sober where
  solid := solid
  checks other client knows := by
    rw [clients] at knows
    by_cases same : other = id
    · rw [same, assign_same] at knows
      exact Option.some.inj knows ▸ checks
    · rw [assign_other _ _ same] at knows
      exact sober.checks other client knows

theorem State.Sober.transition {allowed : Request → Prop} (sober : state.Sober)
    (transition : state.Transition allowed after) :
    after.Sober := by
  cases transition with
  | quiet rearmed clients count grants =>
      exact ⟨sober.solid.rearmed rearmed, clients ▸ sober.checks⟩
  | posts posting => exact sober.arrives rfl
  | inquires inquiry => exact sober.arrives rfl
  | opens deadline => exact sober.arrives rfl
  | @proceeds id client known =>
      have checked : ∀ trial ∈ client.tries? state.world, trial.progress.Checks trial.request :=
        fun trial tries => sober.checks id client known trial (Client.trial?_of_tries? tries)
      obtain ⟨solid, checks⟩ := sober.solid.trying checked (client.proceed_trying state.world)
      exact sober.steps solid rfl checks
  | @givesUp id client known =>
      obtain ⟨idle, settles⟩ := client.giveUp_settles state.world
      refine sober.steps (sober.solid.settles settles) rfl fun trial member => ?_
      rw [idle] at member
      cases member
  | asks known isAllowed =>
      refine sober.steps sober.solid rfl fun trial member => ?_
      cases member
      exact checks_fresh _
  | finishes known => exact sober.steps sober.solid rfl fun trial member => by cases member

theorem sober_run (actions : List Action) : (run actions).Sober := by
  have start : (run []).Sober :=
    ⟨⟨fun account member => (by cases member), fun unit => Memory.solvent_of_empty rfl⟩,
      fun id client known => by cases known⟩
  rw [← List.nil_append actions]
  refine run_onwards (fun state => state.Sober) (asks_anything actions) start ?_
  exact fun state after owned sober transition => sober.transition transition

/-!
## Tables and numbers
-/

/-- The identifiers of accounts that are handed out in a run, by whatever unit, in their order. -/
def newAccounts (actions : List Action) : List AccountId :=
  (heard actions).filterMap Heard.accountGiven?

/-- The identifiers of entries that are handed out in a run, by whatever unit, in their order. -/
def newEntries (actions : List Action) : List EntryId := (heard actions).filterMap Heard.entryGiven?

/-- The tables of a ledger are in order, and so are the numbers that it has handed out. -/
structure Orderly (actions : List Action) (memory : Memory) : Prop where
  names : (memory.accounts.map (·.username)).Nodup
  named : ∀ account ∈ memory.accounts, account.IsNamed
  stored : ∀ account ∈ memory.accounts, memory.account? account.id = some account
  newAccounts : (newAccounts actions).Nodup ∧ ∀ id ∈ newAccounts actions, 0 < id.value ∧
    id.value ≤ (newAccounts actions).length
  newEntries : (newEntries actions).Nodup ∧ ∀ id ∈ newEntries actions, 0 < id.value ∧
    id.value ≤ (newEntries actions).length
  /-- Every identifier of an account has been handed out, and a unit that commits overwrites no
  account. -/
  accounts : (∀ account ∈ memory.accounts, account.id ∈ Shared.newAccounts actions) ∧
    ∀ unit, ∀ account ∈ (memory.staged unit).created,
      account.id ∈ Shared.newAccounts actions ∧ memory.account? account.id = none
  /-- So has every identifier of an entry, and no two entries have the same. -/
  entries : (memory.entries.map (·.id)).Nodup ∧
    (∀ entry ∈ memory.entries, entry.id ∈ Shared.newEntries actions) ∧
    ∀ unit, ∀ entry ∈ (memory.staged unit).entries,
      entry.id ∈ Shared.newEntries actions ∧ ∀ committed ∈ memory.entries, committed.id ≠ entry.id
  references : ∀ entry ∈ memory.entries, ∀ id, entry.account = some id →
    ∃ account ∈ memory.accounts, account.id = id
  balances : ∀ account ∈ memory.accounts, 0 ≤ account.balance.value.toRat

private theorem orderly_numbers {ν : Type} {ids : List ν} {value : ν → Int} {last : Nat}
    (numbers : ids.map value = numbersUpTo last) :
    ids.Nodup ∧ ∀ id ∈ ids, 0 < value id ∧ value id ≤ ids.length := by
  have length : ids.length = last := by
    have same := congrArg List.length numbers
    simpa [numbersUpTo] using same
  refine ⟨List.Nodup.of_map value (numbers ▸ nodup_numbersUpTo last), fun id member => ?_⟩
  rw [length]
  exact mem_numbersUpTo.mp (numbers ▸ List.mem_map_of_mem member)

private theorem mem_ids {ν : Type} {ids : List ν} {value : ν → Int} {last : Nat} {id : ν}
    (injective : Function.Injective value) (numbers : ids.map value = numbersUpTo last)
    (bounds : 0 < value id ∧ value id ≤ last) : id ∈ ids := by
  obtain ⟨other, member, same⟩ := List.mem_map.mp (numbers.symm ▸ mem_numbersUpTo.mpr bounds)
  exact injective same ▸ member

/-- However units of work interleave, fail, stall and are dropped, at every moment the tables are in
order. -/
theorem tables_orderly (actions : List Action) : Orderly actions (run actions).memory := by
  have sound := (owned_run actions).sound
  have intact := intact_run actions
  obtain ⟨accountNumbers, entryNumbers⟩ := heard_numbers actions
  have accountInjective : Function.Injective AccountId.value := fun one other same => by
    cases one
    cases other
    exact congrArg _ same
  have entryInjective : Function.Injective EntryId.value := fun one other same => by
    cases one
    cases other
    exact congrArg _ same
  refine ⟨intact.accounts.nodup, intact.accounts.isNamed,
    fun account member => sound.account?_of_mem member, orderly_numbers accountNumbers,
    orderly_numbers entryNumbers, ⟨?_, ?_⟩, ⟨?_, ?_, ?_⟩, ?_, ?_⟩
  · intro account member
    exact mem_ids accountInjective accountNumbers
      (sound.accounts.bounds none _ (List.mem_map_of_mem member))
  · intro unit account member
    have number : account.id.value ∈ (run actions).memory.accountNumbers (some unit) :=
      List.mem_map_of_mem member
    refine ⟨mem_ids accountInjective accountNumbers (sound.accounts.bounds _ _ number), ?_⟩
    refine Option.eq_none_iff_forall_ne_some.mpr fun committed found => ?_
    cases sound.accounts.apart none (some unit) _ (Memory.accountNumber_of_committed found) number
  · exact List.Nodup.of_map EntryId.value (by rw [List.map_map]; exact sound.entries.nodup none)
  · intro entry member
    exact mem_ids entryInjective entryNumbers
      (sound.entries.bounds none _ (List.mem_map_of_mem member))
  · intro unit entry member
    have number : entry.id.value ∈ (run actions).memory.entryNumbers (some unit) :=
      List.mem_map_of_mem member
    refine ⟨mem_ids entryInjective entryNumbers (sound.entries.bounds _ _ number),
      fun committed isCommitted same => ?_⟩
    have twin : entry.id.value ∈ (run actions).memory.entryNumbers none :=
      same ▸ List.mem_map_of_mem isCommitted
    cases sound.entries.apart none (some unit) _ twin number
  · intro entry member id mentioned
    obtain ⟨account, found⟩ :=
      Option.isSome_iff_exists.mp (intact.references entry member id mentioned)
    exact ⟨account, List.mem_of_find?_eq_some found, Memory.id_of_find? found⟩
  · intro account member
    exact Money.toRat_nonneg ((sober_run actions).solid.accounts account member)

end Shared

end Passbook
