import Mathlib.Data.List.Nodup
import Passbook.Proofs.Memory.Rows

/-!
Integrity of the tables. The names of accounts are good ones and no two accounts have the same,
among the committed accounts and among those that one unit of work has created; and no entry is
recorded for an account that cannot be seen. A name can be taken between the moment in which a unit
creates an account and the moment in which it commits, so committed names are told apart at the
commit alone.
-/

set_option autoImplicit false

namespace Passbook

/-- Whether an account has a name that can be registered. -/
structure Account.IsNamed (account : Account) : Prop where
  trimmed : Text.trim account.username.toList = account.username.toList
  named : account.username.toList ≠ []
  short : account.username.toList.length ≤ maxUsernameLength

theorem Registration.isNamed_account (registration : Registration) (id : AccountId) :
    (registration.account id).IsNamed :=
  ⟨registration.trimmed, registration.named, registration.short⟩

namespace Memory

variable {memory after : Memory} {unit other : UnitId} {id : AccountId}

/-- Whether accounts have good names, and no two the same. -/
structure Named (accounts : List Account) : Prop where
  isNamed : ∀ account ∈ accounts, account.IsNamed
  nodup : (accounts.map (·.username)).Nodup

/-- Whether what a unit has staged can be published as far as the unit knows. -/
structure Neat (memory : Memory) (unit : UnitId) : Prop where
  created : Named (memory.staged unit).created
  seen : ∀ entry ∈ (memory.staged unit).entries, ∀ id ∈ entry.account, (memory.view unit id).isSome

/-- Integrity of the committed tables and of everything that is staged. -/
structure Intact (memory : Memory) : Prop where
  accounts : Named memory.accounts
  references : ∀ entry ∈ memory.entries, ∀ id ∈ entry.account, (memory.account? id).isSome
  units : ∀ unit, Neat memory unit

theorem named_nil : Named [] where
  isNamed account member := by cases member
  nodup := List.nodup_nil

theorem Named.append {accounts others : List Account} (named : Named accounts)
    (further : Named others)
    (apart : ∀ account ∈ accounts, ∀ another ∈ others, account.username ≠ another.username) :
    Named (accounts ++ others) where
  isNamed account member :=
    (List.mem_append.mp member).elim (named.isNamed account) (further.isNamed account)
  nodup := by
    rw [List.map_append]
    apply List.nodup_append.mpr ⟨named.nodup, further.nodup, ?_⟩
    intro name first twin second
    obtain ⟨account, member, rfl⟩ := List.mem_map.mp first
    obtain ⟨another, further, rfl⟩ := List.mem_map.mp second
    exact apart account member another further

theorem Named.overlay {accounts : List Account} (named : Named accounts) (staged : Staged) :
    Named (accounts.map staged.overlay) where
  isNamed account member := by
    obtain ⟨stored, isStored, rfl⟩ := List.mem_map.mp member
    have isNamed := named.isNamed stored isStored
    exact ⟨isNamed.trimmed, isNamed.named, isNamed.short⟩
  nodup := by
    rw [List.map_map]
    exact named.nodup

/-!
## Single units
-/

theorem neat_of_empty (empty : memory.staged unit = .empty) : Neat memory unit where
  created := by
    rw [empty]
    exact named_nil
  seen entry member := by
    rw [empty] at member
    cases member

theorem Neat.kept (neat : Neat memory unit) (staged : after.staged unit = memory.staged unit)
    (accounts : ∀ id, (memory.account? id).isSome → (after.account? id).isSome) :
    Neat after unit where
  created := staged.symm ▸ neat.created
  seen entry member id mentioned := by
    rw [staged] at member
    have seen := isSome_view.mp (neat.seen entry member id mentioned)
    rw [isSome_view, staged]
    exact seen.imp_right (accounts id)

/-- A unit creates no account under a name of another account of its own. -/
theorem Neat.create {registration : Registration} (neat : Neat memory unit)
    (free : memory.isTaken unit registration.username = false) :
    Neat (memory.create unit registration).2 unit where
  created := by
    rw [staged_create]
    refine neat.created.append ⟨?_, List.nodup_singleton _⟩ ?_
    · intro account member
      rw [List.mem_singleton.mp member]
      exact registration.isNamed_account _
    · intro account member another new same
      rw [List.mem_singleton.mp new] at same
      have own : ((memory.staged unit).created.find? fun account => account.username ==
          registration.username).isSome :=
        List.find?_isSome.mpr ⟨account, member, beq_iff_eq.mpr same⟩
      simp only [isTaken, idOfName?, Option.isSome_map, Option.orElse_eq_orElse,
        Option.orElse_eq_or, Option.isSome_or, own, Bool.true_or] at free
      cases free
  seen entry member id mentioned := by
    rw [staged_create] at member
    exact isSome_view_create registration (neat.seen entry member id mentioned)

theorem Neat.setBalance (neat : Neat memory unit) (id : AccountId) (balance : Money) :
    Neat (memory.setBalance unit id balance) unit where
  created := by
    rw [staged_setBalance]
    exact neat.created
  seen entry member row mentioned := by
    rw [staged_setBalance] at member
    rw [view_setBalance, Option.isSome_map]
    exact neat.seen entry member row mentioned

theorem Neat.append {draft : EntryDraft} (neat : Neat memory unit) (time : Time.Timestamp)
    (seen : ∀ id ∈ draft.account, (memory.view unit id).isSome) :
    Neat (memory.append unit draft time).2 unit := by
  have staged := staged_append memory unit draft time
  refine ⟨?_, fun entry member id mentioned => ?_⟩
  · rw [staged]
    exact neat.created
  · rw [view_append]
    rw [staged] at member
    rcases List.mem_append.mp member with old | new
    · exact neat.seen entry old id mentioned
    · rw [List.mem_singleton.mp new] at mentioned
      exact seen id mentioned

theorem Neat.act (neat : Neat memory unit) (act : Act unit memory after) : Neat after unit := by
  cases act with
  | rearm faults delays => exact neat.kept rfl fun _ present => present
  | join row =>
      refine neat.kept ?_ fun id present => ?_
      · exact staged_congr (congrFun (units_join memory unit row) unit)
      · rwa [account?_congr (accounts_join memory unit row)]
  | leave row => exact neat.kept rfl fun _ present => present
  | create registration free => exact neat.create free
  | setBalance row balance held seen => exact neat.setBalance row balance
  | append draft time seen => exact neat.append time seen

/-!
## The whole ledger
-/

theorem intact_empty : Intact empty where
  accounts := named_nil
  references entry member := by cases member
  units _ := neat_of_empty rfl

namespace Intact

theorem rearmed (intact : Intact memory) (rearmed : Rearmed memory after) : Intact after := by
  obtain ⟨faults, delays, rfl⟩ := rearmed
  exact ⟨intact.accounts, intact.references,
    fun unit => (intact.units unit).kept rfl fun _ present => present⟩

theorem openUnit (intact : Intact memory) (sound : Sound memory) : Intact memory.openUnit.2 where
  accounts := intact.accounts
  references := intact.references
  units unit :=
    (intact.units unit).kept (staged_openUnit sound.next_units unit) fun _ present => present

theorem act (intact : Intact memory) (act : Act unit memory after) : Intact after := by
  have accounts : ∀ id, after.account? id = memory.account? id := account?_congr act.unpublished.1
  refine ⟨act.unpublished.1 ▸ intact.accounts, ?_, fun other => ?_⟩
  · intro entry member id mentioned
    rw [accounts]
    rw [act.unpublished.2] at member
    exact intact.references entry member id mentioned
  · by_cases same : other = unit
    · rw [same]
      exact (intact.units unit).act act
    · refine (intact.units other).kept ?_ fun id present => ?_
      · exact staged_congr (act.spares.units other same)
      · rwa [accounts]

theorem acts (intact : Intact memory) (acts : Acts unit memory after) : Intact after := by
  induction acts with
  | refl => exact intact
  | tail _ act ih => exact ih.act act

/-- What a unit staged goes away with it. -/
private theorem units_closed (intact : Intact memory) (closed : after.units unit = none)
    (others : ∀ other, other ≠ unit → after.units other = memory.units other)
    (accounts : ∀ id, (memory.account? id).isSome → (after.account? id).isSome) (other : UnitId) :
    Neat after other := by
  by_cases same : other = unit
  · refine neat_of_empty ?_
    rw [same, staged, closed]
    rfl
  · exact (intact.units other).kept (staged_congr (others other same)) accounts

theorem discard (intact : Intact memory) (unit : UnitId) : Intact (memory.discard unit) where
  accounts := intact.accounts
  references := intact.references
  units :=
    intact.units_closed (units_discard_same memory unit)
      (fun _ different => units_discard_other memory different) fun _ present => present

/-- The names in which a unit clashes with others are looked at again when it commits. -/
theorem publish (intact : Intact memory) (free : memory.clash? unit = none) :
    Intact (memory.publish unit) where
  accounts := by
    refine (intact.accounts.append (intact.units unit).created ?_).overlay _
    intro account committed another created same
    have unclashed := List.find?_eq_none.mp free another created
    exact unclashed (List.any_eq_true.mpr ⟨account, committed, beq_iff_eq.mpr same⟩)
  references entry member id mentioned := by
    rw [entries_publish] at member
    rcases List.mem_append.mp member with old | new
    · exact isSome_account?_publish (intact.references entry old id mentioned)
    · have seen := isSome_view.mp ((intact.units unit).seen entry new id mentioned)
      rw [account?_publish, Option.isSome_map, Option.orElse_eq_orElse, Option.orElse_eq_or,
        Option.isSome_or, Bool.or_eq_true]
      exact seen.symm
  units :=
    intact.units_closed (units_discard_same _ unit)
      (fun _ different => units_discard_other _ different) fun _ => isSome_account?_publish

end Intact

/-!
## Balances
-/

/-- Whether a unit has staged no negative balance. -/
structure Solvent (memory : Memory) (unit : UnitId) : Prop where
  balances : ∀ id balance, (memory.staged unit).balances id = some balance →
    balance.isNegative = false
  created : ∀ account ∈ (memory.staged unit).created, account.balance.isNegative = false

theorem solvent_of_empty (empty : memory.staged unit = .empty) : Solvent memory unit where
  balances id balance staged := by
    rw [empty] at staged
    cases staged
  created account member := by
    rw [empty] at member
    cases member

theorem Solvent.congr (solvent : Solvent memory unit)
    (units : after.units unit = memory.units unit) : Solvent after unit := by
  have staged := staged_congr units
  exact ⟨staged.symm ▸ solvent.balances, staged.symm ▸ solvent.created⟩

theorem Solvent.create (solvent : Solvent memory unit) (registration : Registration) :
    Solvent (memory.create unit registration).2 unit where
  balances := by
    rw [staged_create]
    exact solvent.balances
  created account member := by
    rw [staged_create] at member
    rcases List.mem_append.mp member with old | new
    · exact solvent.created account old
    · rw [List.mem_singleton.mp new]
      rfl

theorem Solvent.setBalance {balance : Money} (solvent : Solvent memory unit) (id : AccountId)
    (isNegative : balance.isNegative = false) :
    Solvent (memory.setBalance unit id balance) unit where
  balances row staged known := by
    rw [staged_setBalance] at known
    change assign (memory.staged unit).balances id (some balance) row = some staged at known
    by_cases same : row = id
    · rw [same, assign_same] at known
      exact Option.some.inj known ▸ isNegative
    · rw [assign_other _ _ same] at known
      exact solvent.balances row staged known
  created := by
    rw [staged_setBalance]
    exact solvent.created

theorem Solvent.append (solvent : Solvent memory unit) (draft : EntryDraft)
    (time : Time.Timestamp) :
    Solvent (memory.append unit draft time).2 unit := by
  have staged := staged_append memory unit draft time
  refine ⟨?_, ?_⟩ <;> rw [staged]
  · exact solvent.balances
  · exact solvent.created

/-- Whether a balance that waits for its row has been looked at. A negative one is refused before
its row is asked for. -/
def Progress.Checks (progress : Progress) (request : Request) : Prop :=
  ∀ id balance deadline, request = .setBalance id balance → progress = .queued deadline →
    balance.isNegative = false

private theorem trySetBalance_refuses {balance : Money} {progress : Progress} (unit : UnitId)
    (id : AccountId) (world : World Memory) (isNegative : balance.isNegative = true)
    (unqueued : ∀ deadline, progress ≠ .queued deadline) :
    (∃ wakeAt, (trySetBalance unit id balance progress world).1 = .waiting (.sleeping wakeAt)) ∨
      ∃ error, (trySetBalance unit id balance progress world).1 = .ready (.error error) := by
  rcases trySetBalance_cases progress with ⟨deadline, queued, _⟩ | ⟨_, checked⟩
  · exact absurd queued (unqueued deadline)
  · have entering := enter_entering .setBalance progress world
    rw [checked, afterEntering]
    generalize enter .setBalance progress world = entered at entering
    obtain ⟨result, entered⟩ := entered
    cases entering with
    | sleeps wakeAt rearmed => exact .inl ⟨wakeAt, rfl⟩
    | passes rearmed =>
        dsimp only [trySetChecked]
        rw [if_pos isNegative]
        exact .inr ⟨_, rfl⟩
    | fails rearmed => exact .inr ⟨_, rfl⟩

/-- A request that has been checked sets no negative balance. -/
private theorem notNegative_of_set {balance : Money} {progress : Progress} {world : World Memory}
    (checks : progress.Checks (.setBalance id balance))
    (answered : (∃ reply, (trySetBalance unit id balance progress world).1 = .ready (.ok reply)) ∨
      ∃ deadline, (trySetBalance unit id balance progress world).1 = .waiting (.queued deadline)) :
    balance.isNegative = false := by
  cases isNegative : balance.isNegative with
  | false => rfl
  | true =>
      have unqueued : ∀ deadline, progress ≠ .queued deadline := by
        intro deadline queued
        cases isNegative.symm.trans (checks id balance deadline rfl queued)
      rcases trySetBalance_refuses unit id world isNegative unqueued
        with ⟨wakeAt, result⟩ | ⟨error, result⟩
      · rw [result] at answered
        rcases answered with ⟨reply, same⟩ | ⟨deadline, same⟩ <;> cases same
      · rw [result] at answered
        rcases answered with ⟨reply, same⟩ | ⟨deadline, same⟩ <;> cases same

/-- Whatever a unit asks, it stays solvent. -/
theorem Solvent.tryAsk {world : World Memory} {request : Request} {progress : Progress}
    (solvent : Solvent world.store unit) (checks : progress.Checks request) :
    Solvent (tryAsk unit request progress world).2.store unit := by
  have staging := tryAsk_staging unit request progress world
  generalize answer : (Memory.tryAsk unit request progress world).1 = result at staging
  generalize (Memory.tryAsk unit request progress world).2.store = left at staging
  cases staging with
  | nothing unwritten unheard => exact solvent.congr (congrFun unwritten.units unit)
  | creates registration free => exact solvent.create registration
  | sets id balance unwritten =>
      exact (solvent.congr (congrFun unwritten.units unit)).setBalance id
        (notNegative_of_set checks (.inl ⟨(), answer⟩))
  | appends draft time unwritten =>
      exact (solvent.congr (congrFun unwritten.units unit)).append draft time

/-- No negative balance gets to wait for its row. -/
theorem Progress.Checks.waits {world : World Memory} {request : Request} {progress later : Progress}
    (checks : progress.Checks request)
    (waits : (tryAsk unit request progress world).1 = .waiting later) : later.Checks request := by
  rintro id balance deadline rfl rfl
  exact notNegative_of_set checks (.inr ⟨deadline, waits⟩)

theorem Solvent.publish (solvent : Solvent memory unit)
    (accounts : ∀ account ∈ memory.accounts, account.balance.isNegative = false) :
    ∀ account ∈ (memory.publish unit).accounts, account.balance.isNegative = false := by
  intro account member
  obtain ⟨stored, isStored, rfl⟩ := List.mem_map.mp member
  have kept : stored.balance.isNegative = false :=
    (List.mem_append.mp isStored).elim (accounts stored) (solvent.created stored)
  cases staged : (memory.staged unit).balances stored.id with
  | none => simpa [Staged.overlay, staged] using kept
  | some balance => simpa [Staged.overlay, staged] using solvent.balances stored.id balance staged

end Memory

end Passbook
