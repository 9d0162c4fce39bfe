import Passbook.Proofs.Memory.Outcome
import Passbook.Proofs.Memory.View

/-!
The rows of a unit of work. A unit stages balances only for rows that it holds, of accounts that it
sees; so it never gives up a row while a balance is staged for it. And what a unit sees in a row
that it holds is changed by nothing but the balances that it sets there itself.
-/

set_option autoImplicit false

namespace Passbook

/-- The row that a request needs. -/
def Request.row? : Request → Option AccountId
  | .lock id _ => some id
  | .setBalance id _ => some id
  | _ => none

/-- The row that a call waits for. -/
def Request.awaited? (request : Request) : Memory.Progress → Option AccountId
  | .queued _ => request.row?
  | _ => none

/-- The balance that a request with its reply sets for a row. -/
def Request.sets? (row : AccountId) :
    (request : Request) → Except StoreError request.Reply → Option Money
  | .setBalance id balance, .ok _ => if id = row then some balance else none
  | _, _ => none

/-- The balance that is set for a row by a request that is tried. -/
def Request.settles? (row : AccountId) (request : Request) :
    Poll Memory.Progress (Except StoreError request.Reply) → Option Money
  | .waiting _ => none
  | .ready reply => request.sets? row reply

/-- An account with the balance that has been set last, if any. -/
def Account.reset (account : Account) (balance : Option Money) : Account :=
  { account with balance := balance.getD account.balance }

theorem Account.reset_reset (account : Account) (first second : Option Money) :
    (account.reset first).reset second = account.reset (second <|> first) := by
  cases second <;> rfl

namespace Memory

variable {memory after : Memory} {unit other : UnitId} {id row : AccountId}

/-- Whether a unit stages balances only for rows that it holds, of accounts that it sees. -/
structure Covered (memory : Memory) (unit : UnitId) : Prop where
  held : ∀ id, (memory.staged unit).balances id ≠ none → memory.holds unit id = true
  seen : ∀ id, (memory.staged unit).balances id ≠ none → (memory.view unit id).isSome

/-- A unit holds a row and sees an account there. -/
structure Sees (memory : Memory) (unit : UnitId) (row : AccountId) (account : Account) : Prop where
  held : memory.holds unit row = true
  seen : memory.view unit row = some account

theorem withdraw_eq (unit : UnitId) (request : Request) (progress : Progress)
    (world : World Memory) :
    withdraw unit request progress world =
      match request.awaited? progress with
      | some row => update world fun memory => memory.leave unit row
      | none => world := by
  cases request <;> cases progress <;> rfl

/-!
## What a unit sees of an account
-/

theorem isSome_view : (memory.view unit id).isSome = true ↔
    ((memory.staged unit).created.find? fun account => account.id == id).isSome = true ∨
      (memory.account? id).isSome = true := by
  simp [view]

private theorem id_of_found {stored : Account}
    (found : (((memory.staged unit).created.find? fun account => account.id == id) <|>
      memory.account? id) = some stored) :
    stored.id = id := by
  rw [Option.orElse_eq_orElse, Option.orElse_eq_or, Option.or_eq_some_iff] at found
  rcases found with created | ⟨_, committed⟩
  · exact id_of_find? created
  · exact id_of_find? committed

theorem view_setBalance (memory : Memory) (unit : UnitId) (id row : AccountId) (balance : Money) :
    (memory.setBalance unit id balance).view unit row =
      (memory.view unit row).map fun account => if id = row then
        { account with balance } else account := by
  have staged := staged_setBalance memory unit id balance
  have tables : (memory.setBalance unit id balance).account? row = memory.account? row := rfl
  simp only [view, staged, tables, Option.map_map]
  refine Option.map_congr fun account found => ?_
  have known : account.id = row := id_of_found found
  by_cases same : id = row
  · simp [Staged.overlay, known, same]
  · simp [Staged.overlay, known, same, assign_other _ _ (Ne.symm same)]

theorem view_append (memory : Memory) (unit : UnitId) (draft : EntryDraft) (time : Time.Timestamp)
    (id : AccountId) :
    (memory.append unit draft time).2.view unit id = memory.view unit id := by
  have staged := staged_append memory unit draft time
  have tables : (memory.append unit draft time).2.account? id = memory.account? id := rfl
  simp only [view, staged, tables]
  rfl

theorem isSome_view_create (registration : Registration) (seen : (memory.view unit id).isSome) :
    ((memory.create unit registration).2.view unit id).isSome := by
  rw [isSome_view, staged_create, List.find?_append, Option.isSome_or, Bool.or_eq_true]
  exact (isSome_view.mp seen).imp_left .inl

/-- An account that is seen is not hidden by one that is created, since the new one has a new
number. -/
theorem Sound.view_create {account : Account} (sound : Sound memory) (registration : Registration)
    (seen : memory.view unit id = some account) :
    (memory.create unit registration).2.view unit id = some account := by
  have tables : (memory.create unit registration).2.account? id = memory.account? id := rfl
  have plain : (memory.staged unit).overlay =
      ({ memory.staged unit with
        created :=
          (memory.staged unit).created ++ [registration.account ⟨memory.lastAccount + 1⟩] } :
            Staged).overlay := rfl
  simp only [view, staged_create, tables, List.find?_append]
  rw [← seen, view]
  cases created : (memory.staged unit).created.find? fun account => account.id == id with
  | some account => rfl
  | none =>
      obtain ⟨stored, found, -⟩ := Option.map_eq_some_iff.mp seen
      rw [created] at found
      have committed : memory.account? id = some stored := found
      have number : id.value ∈ memory.accountNumbers none := accountNumber_of_committed committed
      have isNew : ((⟨memory.lastAccount + 1⟩ : AccountId) == id) = false := by
        refine beq_false_of_ne fun same => ?_
        rw [← same] at number
        exact sound.accounts.next_not_mem none number
      have unfound :
          ([registration.account ⟨memory.lastAccount + 1⟩].find? fun account => account.id == id) =
            none := by
        simp [Registration.account, isNew]
      rw [unfound]
      rfl

/-!
## Staged balances
-/

theorem Covered.unstaged_of_not_held (covered : Covered memory unit)
    (free : memory.holds unit id = false) :
    (memory.staged unit).balances id = none := by
  refine Classical.byContradiction fun staged => ?_
  rw [covered.held id staged] at free
  cases free

theorem Covered.unstaged_of_unseen (covered : Covered memory unit)
    (unseen : memory.view unit id = none) :
    (memory.staged unit).balances id = none := by
  refine Classical.byContradiction fun staged => ?_
  have seen := covered.seen id staged
  rw [unseen] at seen
  cases seen

theorem covered_of_unstaged (unstaged : ∀ id, (memory.staged unit).balances id = none) :
    Covered memory unit :=
  ⟨fun id staged => absurd (unstaged id) staged, fun id staged => absurd (unstaged id) staged⟩

/-- Nothing that leaves a unit its rows and what it has staged uncovers it, as no account ever goes
away. -/
theorem Covered.kept (covered : Covered memory unit) (units : after.units unit = memory.units unit)
    (holds : ∀ id, memory.holds unit id = true → after.holds unit id = true)
    (accounts : ∀ id, (memory.account? id).isSome → (after.account? id).isSome) :
    Covered after unit := by
  have staged := staged_congr units
  refine ⟨fun id isStaged => ?_, fun id isStaged => ?_⟩
  · rw [staged] at isStaged
    exact holds id (covered.held id isStaged)
  · rw [staged] at isStaged
    have seen := isSome_view.mp (covered.seen id isStaged)
    rw [isSome_view, staged]
    exact seen.imp_right (accounts id)

theorem Covered.rearmed (covered : Covered memory unit) (rearmed : Rearmed memory after) :
    Covered after unit :=
  covered.kept (congrFun rearmed.units unit) (fun _ held => rearmed.holds.trans held)
    fun id present => by
    rwa [account?_congr rearmed.accounts]

theorem Covered.join (covered : Covered memory unit) (id : AccountId) :
    Covered (memory.join unit id) unit :=
  covered.kept (congrFun (units_join memory unit id) unit) (fun _ held => holds_join held id)
    fun other present => by
    rwa [account?_congr (accounts_join memory unit id)]

/-- A unit can only leave a row for which it has not staged a balance. -/
theorem Covered.leave (covered : Covered memory unit)
    (unstaged : (memory.staged unit).balances id = none) :
    Covered (memory.leave unit id) unit where
  held row staged := by
    have different : row ≠ id := fun same => staged (same ▸ unstaged)
    rw [holds_iff, queues_leave, if_neg different, ← holds_iff]
    exact covered.held row staged
  seen row staged := covered.seen row staged

theorem Covered.create (covered : Covered memory unit) (registration : Registration) :
    Covered (memory.create unit registration).2 unit where
  held id staged := by
    rw [staged_create] at staged
    exact covered.held id staged
  seen id staged := by
    rw [staged_create] at staged
    exact isSome_view_create registration (covered.seen id staged)

theorem Covered.setBalance (covered : Covered memory unit) (balance : Money)
    (held : memory.holds unit id = true) (seen : (memory.view unit id).isSome) :
    Covered (memory.setBalance unit id balance) unit := by
  have kept : ∀ row, ((memory.setBalance unit id balance).staged unit).balances row ≠ none →
      row = id ∨ (memory.staged unit).balances row ≠ none := by
    intro row staged
    by_cases same : row = id
    · exact .inl same
    · simp only [staged_setBalance, assign_other _ _ same] at staged
      exact .inr staged
  refine ⟨fun row staged => ?_, fun row staged => ?_⟩
  · rcases kept row staged with rfl | old
    · exact held
    · exact covered.held row old
  · rw [view_setBalance, Option.isSome_map]
    rcases kept row staged with rfl | old
    · exact seen
    · exact covered.seen row old

theorem Covered.append (covered : Covered memory unit) (draft : EntryDraft)
    (time : Time.Timestamp) :
    Covered (memory.append unit draft time).2 unit := by
  have balances : ((memory.append unit draft time).2.staged unit).balances =
      (memory.staged unit).balances := by
    simp [Memory.append, staged, stage]
  refine ⟨fun id isStaged => ?_, fun id isStaged => ?_⟩
  · rw [balances] at isStaged
    exact covered.held id isStaged
  · rw [balances] at isStaged
    rw [view_append]
    exact covered.seen id isStaged

theorem Covered.locking {result : Poll Progress (Except StoreError (Option Account))}
    (covered : Covered memory unit) (locking : Locking unit id memory result after) :
    Covered after unit := by
  have joined := covered.join id
  cases locking with
  | waits deadline free => exact joined
  | timesOut detail free => exact joined.leave (joined.unstaged_of_not_held free)
  | locks held seen => exact joined
  | misses held unseen => exact joined.leave (joined.unstaged_of_unseen unseen)

theorem Covered.setting {balance : Money} {result : Poll Progress (Except StoreError Unit)}
    (covered : Covered memory unit) (setting : Setting unit id balance memory result after) :
    Covered after unit := by
  cases setting with
  | sleeps wakeAt rearmed => exact covered.rearmed rearmed
  | waits rearmed free => exact (covered.rearmed rearmed).join id
  | fails error noTimeout rearmed => exact covered.rearmed rearmed
  | misses error noTimeout rearmed => exact (covered.rearmed rearmed).join id
  | sets rearmed held seen => exact ((covered.rearmed rearmed).join id).setBalance balance held seen

theorem Covered.appending {draft : EntryDraft} {result : Poll Progress (Except StoreError Entry)}
    (covered : Covered memory unit) (appending : Appending unit draft memory result after) :
    Covered after unit := by
  cases appending with
  | sleeps progress rearmed => exact covered.rearmed rearmed
  | fails error noTimeout rearmed => exact covered.rearmed rearmed
  | appends time rearmed seen => exact (covered.rearmed rearmed).append draft time

/-- Whatever a unit asks, it stays covered. -/
theorem Covered.tryAsk {world : World Memory} (covered : Covered world.store unit)
    (request : Request) (progress : Progress) :
    Covered (tryAsk unit request progress world).2.store unit := by
  cases request with
  | lock id deadline => exact covered.locking (tryLock_locking unit id deadline world)
  | find id => exact covered
  | findName username => exact covered
  | insert registration =>
      have inserting := tryInsert_inserting unit registration world
      change Covered (tryInsert unit registration world).2.store unit
      generalize (tryInsert unit registration world).1 = result,
        (tryInsert unit registration world).2.store = left at inserting
      cases inserting with
      | refuses error => exact covered
      | inserts free => exact covered.create registration
  | setBalance id balance =>
      exact covered.setting (trySetBalance_setting unit id balance progress world)
  | append draft => exact covered.appending (tryAppend_appending unit draft progress world)
  | list id => exact covered

/-!
## Waiting for a row
-/

/-- A unit that is left waiting for a row does not hold it. -/
theorem not_held_of_awaited {request : Request} {progress next : Progress} {world : World Memory}
    (waits : (tryAsk unit request progress world).1 = .waiting next)
    (awaited : request.awaited? next = some id) :
    (tryAsk unit request progress world).2.store.holds unit id = false := by
  cases next with
  | fresh => cases awaited
  | sleeping wakeAt => cases awaited
  | queued deadline =>
      cases request with
      | lock row bound =>
          cases awaited
          have locking := tryLock_locking unit id bound world
          change (tryLock unit id bound world).2.store.holds unit id = false
          rw [show (tryLock unit id bound world).1 = .waiting (.queued deadline) from waits]
            at locking
          generalize (tryLock unit id bound world).2.store = left at locking
          cases locking with
          | waits _ free => exact free
      | setBalance row balance =>
          cases awaited
          have setting := trySetBalance_setting unit id balance progress world
          change (trySetBalance unit id balance progress world).2.store.holds unit id = false
          rw [show (trySetBalance unit id balance progress world).1 = .waiting (.queued deadline)
            from waits] at setting
          generalize (trySetBalance unit id balance progress world).2.store = left at setting
          cases setting with
          | waits rearmed free => exact free
      | find row => cases awaited
      | findName username => cases awaited
      | insert registration => cases awaited
      | append draft => cases awaited
      | list row => cases awaited

/-!
## Rows that are held
-/

theorem view_congr (units : after.units unit = memory.units unit)
    (known : after.account? id = memory.account? id) :
    after.view unit id = memory.view unit id := by
  simp only [view, staged, units, known]

variable {account : Account}

theorem Sees.kept (sees : Sees memory unit row account)
    (queues : memory.holds unit row = true → after.holds unit row = true)
    (units : after.units unit = memory.units unit) (accounts : after.accounts = memory.accounts) :
    Sees after unit row account :=
  ⟨queues sees.held, (view_congr units (account?_congr accounts row)).trans sees.seen⟩

theorem Sees.rearmed (sees : Sees memory unit row account) (rearmed : Rearmed memory after) :
    Sees after unit row account :=
  sees.kept rearmed.holds.trans (congrFun rearmed.units unit) rearmed.accounts

theorem Sees.join (sees : Sees memory unit row account) (id : AccountId) :
    Sees (memory.join unit id) unit row account :=
  sees.kept (fun held => holds_join held id) (congrFun (units_join memory unit id) unit)
    (accounts_join memory unit id)

theorem Sees.leave (sees : Sees memory unit row account) (different : id ≠ row) :
    Sees (memory.leave unit id) unit row account := by
  refine sees.kept (fun held => ?_) rfl rfl
  rwa [holds_iff, queues_leave, if_neg different.symm, ← holds_iff]

theorem Sees.locking {result : Poll Progress (Except StoreError (Option Account))}
    (sees : Sees memory unit row account) (locking : Locking unit id memory result after) :
    Sees after unit row account := by
  have joined := sees.join id
  have elsewhere : (memory.join unit id).holds unit id = false ∨
      (memory.join unit id).view unit id = none → id ≠ row := by
    intro unlocked same
    subst same
    rcases unlocked with free | unseen
    · cases free.symm.trans joined.held
    · cases unseen.symm.trans joined.seen
  cases locking with
  | waits deadline free => exact joined
  | timesOut detail free => exact joined.leave (elsewhere (.inl free))
  | locks held seen => exact joined
  | misses held unseen => exact joined.leave (elsewhere (.inr unseen))

theorem Sees.setting {balance : Money} {result : Poll Progress (Except StoreError Unit)}
    (sees : Sees memory unit row account) (setting : Setting unit id balance memory result after)
    (unset : result ≠ .ready (.ok ())) : Sees after unit row account := by
  cases setting with
  | sleeps wakeAt rearmed => exact sees.rearmed rearmed
  | waits rearmed free => exact (sees.rearmed rearmed).join id
  | fails error noTimeout rearmed => exact sees.rearmed rearmed
  | misses error noTimeout rearmed => exact (sees.rearmed rearmed).join id
  | sets rearmed held seen => exact absurd rfl unset

theorem Sees.sets {balance : Money} (sees : Sees memory unit row account)
    (setting : Setting unit id balance memory (.ready (.ok ())) after) :
    Sees after unit row (account.reset (if id = row then some balance else none)) := by
  cases setting with
  | sets rearmed held seen =>
      have joined := (sees.rearmed rearmed).join id
      refine ⟨joined.held, ?_⟩
      rw [view_setBalance, joined.seen]
      by_cases same : id = row
      · simp [same, Account.reset]
      · simp [same, Account.reset]

theorem Sees.appending {draft : EntryDraft} {result : Poll Progress (Except StoreError Entry)}
    (sees : Sees memory unit row account) (appending : Appending unit draft memory result after) :
    Sees after unit row account := by
  cases appending with
  | sleeps progress rearmed => exact sees.rearmed rearmed
  | fails error noTimeout rearmed => exact sees.rearmed rearmed
  | appends time rearmed seen =>
      have still := sees.rearmed rearmed
      exact ⟨still.held, (view_append _ unit draft time row).trans still.seen⟩

/-- A unit that has been given a row holds it, and sees there the account that it was given. -/
theorem sees_of_locked {deadline : Deadline} {progress : Progress} {world left : World Memory}
    (tried : tryAsk unit (.lock row deadline) progress world =
      (.ready (.ok (some account)), left)) :
    Sees left.store unit row account := by
  have locking := tryLock_locking unit row deadline world
  rw [show tryLock unit row deadline world = (.ready (.ok (some account)), left) from tried]
    at locking
  generalize left.store = after at locking
  cases locking with
  | locks held seen => exact ⟨held, seen⟩

/-- What a unit sees in a row that it holds after it has tried a request. -/
theorem Sees.tryAsk {world : World Memory} (sees : Sees world.store unit row account)
    (sound : Sound world.store) (request : Request) (progress : Progress) :
    Sees (tryAsk unit request progress world).2.store unit row
      (account.reset (request.settles? row (tryAsk unit request progress world).1)) := by
  cases request with
  | lock id deadline =>
      have still := sees.locking (tryLock_locking unit id deadline world)
      change Sees (tryLock unit id deadline world).2.store unit row
        (account.reset
          (Request.settles? row (.lock id deadline) (tryLock unit id deadline world).1))
      cases (tryLock unit id deadline world).1 <;> exact still
  | find id => exact sees
  | findName username => exact sees
  | insert registration =>
      have inserting := tryInsert_inserting unit registration world
      change Sees (tryInsert unit registration world).2.store unit row
        (account.reset
          (Request.settles? row (.insert registration) (tryInsert unit registration world).1))
      generalize (tryInsert unit registration world).1 = result,
        (tryInsert unit registration world).2.store = left at inserting
      cases inserting with
      | refuses error => exact sees
      | inserts free => exact ⟨sees.held, sound.view_create registration sees.seen⟩
  | setBalance id balance =>
      have setting := trySetBalance_setting unit id balance progress world
      change Sees (trySetBalance unit id balance progress world).2.store unit row
        (account.reset
          (Request.settles? row (.setBalance id balance)
            (trySetBalance unit id balance progress world).1))
      generalize (trySetBalance unit id balance progress world).1 = result at setting
      rcases result with next | error | _
      · exact sees.setting setting (by simp)
      · exact sees.setting setting (by simp)
      · exact sees.sets setting
  | append draft =>
      have still := sees.appending (tryAppend_appending unit draft progress world)
      change Sees (tryAppend unit draft progress world).2.store unit row
        (account.reset
          (Request.settles? row (.append draft) (tryAppend unit draft progress world).1))
      cases (tryAppend unit draft progress world).1 <;> exact still
  | list id => exact sees

/-- The end of another unit does not touch a row that a unit holds, if the other has staged balances
only for rows of its own. -/
theorem Sees.account?_publish {other : UnitId} (sees : Sees memory unit row account)
    (sound : Sound memory) (different : other ≠ unit)
    (rows : ∀ id, (memory.staged other).balances id ≠ none → memory.holds other id = true) :
    (memory.publish other).account? row = memory.account? row := by
  have unstaged : (memory.staged other).balances row = none := by
    refine Classical.byContradiction fun staged => ?_
    exact different (holds_unique (rows row staged) sees.held)
  rw [Memory.account?_publish]
  cases committed : memory.account? row with
  | some stored =>
      have known : stored.id = row := id_of_find? committed
      subst known
      simp only [Option.orElse_eq_orElse, Option.orElse_eq_or, Option.some_or, Option.map_some,
        Staged.overlay, unstaged, Option.getD_none]
  | none =>
      obtain ⟨stored, found, -⟩ := Option.map_eq_some_iff.mp sees.seen
      have created : (memory.staged unit).created.find? (fun account => account.id == row) =
          some stored := by
        rw [committed] at found
        simpa using found
      have mine : row.value ∈ memory.accountNumbers (some unit) := accountNumber_of_created created
      cases theirs : (memory.staged other).created.find? fun account => account.id == row with
      | none => rfl
      | some twin =>
          exact absurd
            (Option.some.inj (sound.accounts.apart _ _ _ (accountNumber_of_created theirs) mine))
            different

/-!
## Rows as locks
-/

/-- Nobody else gets a row that a unit holds. -/
theorem unlocked_of_held {world : World Memory} (held : world.store.holds unit row = true)
    (different : other ≠ unit) (deadline : Deadline) (progress : Progress)
    {reply : Option Account} :
    (store.tryAsk other (.lock row deadline) progress world).1 ≠ .ready (.ok reply) := by
  intro succeeds
  have locking := tryLock_locking other row deadline world
  rw [show (tryLock other row deadline world).1 = .ready (.ok reply) from succeeds] at locking
  generalize (tryLock other row deadline world).2.store = left at locking
  have joined : (world.store.join other row).holds unit row = true := holds_join held row
  cases locking with
  | locks held seen => exact different (holds_unique held joined)
  | misses held unseen => exact different (holds_unique held joined)

/-- What it means that a row belongs to a unit: no other unit gets the row or sets its balance, and
the unit finds the account. -/
structure Reserved (world : World Memory) (unit : UnitId) (row : AccountId)
    (account : Account) : Prop where
  held : world.store.holds unit row = true
  unlocked : ∀ other, other ≠ unit → ∀ deadline progress reply,
    (store.tryAsk other (.lock row deadline) progress world).1 ≠ .ready (.ok reply)
  unset : ∀ other, other ≠ unit → ∀ balance progress reply,
    (store.tryAsk other (.setBalance row balance) progress world).1 ≠ .ready (.ok reply)
  finds : ∀ progress, (store.tryAsk unit (.find row) progress world).1 = .ready (.ok (some account))

theorem Sees.reserved {world : World Memory} (sees : Sees world.store unit row account) :
    Reserved world unit row account where
  held := sees.held
  unlocked _ different deadline progress _ := unlocked_of_held sees.held different deadline progress
  unset other different balance progress reply succeeds := by
    have setting := trySetBalance_setting other row balance progress world
    rw [show (trySetBalance other row balance progress world).1 = .ready (.ok reply) from succeeds]
      at setting
    generalize (trySetBalance other row balance progress world).2.store = left at setting
    cases setting with
    | sets rearmed held seen =>
        exact different (holds_unique held (holds_join (rearmed.holds.trans sees.held) row))
  finds progress := congrArg (fun found => Poll.ready (Except.ok found)) sees.seen

end Memory

end Passbook
