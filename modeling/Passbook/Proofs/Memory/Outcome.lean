import Passbook.Memory.Store
import Passbook.Proofs.Memory.Change

/-!
What can come of a store call that is tried. Each relation below lists the results that a call can
have in a given ledger together with the ledger that is left; the clock and the bounds of the caller
are not looked at.
-/

set_option autoImplicit false

namespace Passbook

/-- Whether a request stages something if it succeeds. -/
def Request.writes : Request → Bool
  | .insert _ => true
  | .setBalance _ _ => true
  | .append _ => true
  | _ => false

end Passbook

namespace Passbook.Memory

variable {memory after : Memory} {unit : UnitId} {id : AccountId}

/-!
## Ordered failures and delays
-/

/-- The moment at which a call goes on past a place where a delay can be ordered. -/
def dueAt (point : FaultPoint) (progress : Progress) (world : World Memory) : Nat :=
  match progress with
  | .sleeping wakeAt => wakeAt
  | _ => world.now + (world.store.delays point).getD 0

/-- The world in which a call waits for that moment. The order for its delay is used up. -/
def begun (point : FaultPoint) (progress : Progress) (world : World Memory) : World Memory :=
  match progress with
  | .sleeping _ => world
  | _ => update world fun memory => { memory with delays := assign memory.delays point none }

theorem begun_of_undelayed {point : FaultPoint} {world : World Memory}
    (undelayed : world.store.delays point = none) (progress : Progress) :
    begun point progress world = world := by
  have early : begun point .fresh world = world := by
    simp only [begun, update, ← undelayed, assign_own]
  cases progress with
  | fresh => exact early
  | sleeping wakeAt => rfl
  | queued deadline => exact early

theorem checkFault_ready (point : FaultPoint) (world : World Memory) :
    ∃ result left, checkFault point world = (.ready result, left) := by
  rw [checkFault]
  split <;> exact ⟨_, _, rfl⟩

theorem checkFault_of_unfailing {point : FaultPoint} {world : World Memory}
    (unfailing : world.store.faults point = false) :
    checkFault point world = (.ready (.ok ()), world) := by
  rw [checkFault, if_neg (by simp [unfailing])]

/-- A call waits until its moment has come, and only then looks whether it is to fail. -/
theorem enter_eq (point : FaultPoint) (progress : Progress) (world : World Memory) :
    enter point progress world =
      if dueAt point progress world ≤ world.now then checkFault point (begun point progress world)
      else (.waiting (.sleeping (dueAt point progress world)), begun point progress world) := by
  have early : enter point .fresh world =
      if dueAt point .fresh world ≤ world.now then checkFault point (begun point .fresh world)
      else (.waiting (.sleeping (dueAt point .fresh world)), begun point .fresh world) := by
    cases delay : world.store.delays point with
    | none =>
        simp only [enter, dueAt, delay, begun_of_undelayed delay, Option.getD_none, Nat.add_zero]
    | some milliseconds => simp only [enter, dueAt, begun, delay, Option.getD_some, update]
  cases progress with
  | fresh => exact early
  | sleeping wakeAt => rfl
  | queued deadline => exact early

theorem enter_of_due {point : FaultPoint} {progress : Progress} {world : World Memory}
    (due : dueAt point progress world ≤ world.now) (unfailing : world.store.faults point = false) :
    enter point progress world = (.ready (.ok ()), begun point progress world) := by
  have stillUnfailing : (begun point progress world).store.faults point = false := by
    cases progress <;> exact unfailing
  rw [enter_eq, if_pos due, checkFault_of_unfailing stillUnfailing]

theorem begun_rearmed (point : FaultPoint) (progress : Progress) (world : World Memory) :
    Rearmed world.store (begun point progress world).store := by
  cases progress with
  | fresh => exact ⟨world.store.faults, _, rfl⟩
  | sleeping wakeAt => exact .refl _
  | queued deadline => exact ⟨world.store.faults, _, rfl⟩

/-- What comes of passing a place where failures and delays can be ordered. -/
inductive Entering (point : FaultPoint) (memory : Memory) :
    Poll Progress (Except StoreError Unit) → Memory → Prop
  | sleeps {after : Memory} (wakeAt : Nat) (rearmed : Rearmed memory after) :
      Entering point memory (.waiting (.sleeping wakeAt)) after
  | passes {after : Memory} (rearmed : Rearmed memory after) :
      Entering point memory (.ready (.ok ())) after
  | fails {after : Memory} (rearmed : Rearmed memory after) :
      Entering point memory (.ready (.error (injected point))) after

private theorem Entering.rearmed {before : Memory} {point : FaultPoint}
    {result : Poll Progress (Except StoreError Unit)} (earlier : Rearmed memory before)
    (entering : Entering point before result after) : Entering point memory result after := by
  cases entering with
  | sleeps wakeAt rearmed => exact .sleeps wakeAt (earlier.trans rearmed)
  | passes rearmed => exact .passes (earlier.trans rearmed)
  | fails rearmed => exact .fails (earlier.trans rearmed)

private theorem checkFault_entering (point : FaultPoint) (world : World Memory) :
    Entering point world.store (checkFault point world).1 (checkFault point world).2.store := by
  unfold checkFault
  split
  · exact .fails ⟨_, world.store.delays, rfl⟩
  · exact .passes (.refl _)

theorem enter_entering (point : FaultPoint) (progress : Progress) (world : World Memory) :
    Entering point world.store (enter point progress world).1
      (enter point progress world).2.store := by
  have rearmed := begun_rearmed point progress world
  rw [enter_eq]
  split
  · exact (checkFault_entering point _).rearmed rearmed
  · exact .sleeps _ rearmed

theorem injected_fault (point : FaultPoint) : (injected point).fault ≠ .lockTimeout := by
  cases point <;> decide

/-!
## Opening
-/

inductive Opening (memory : Memory) : Poll Progress (Except StoreError UnitId) → Memory → Prop
  | waits {after : Memory} (progress : Progress) (rearmed : Rearmed memory after) :
      Opening memory (.waiting progress) after
  | opens {before : Memory} (rearmed : Rearmed memory before) :
      Opening memory (.ready (.ok ⟨before.lastUnit + 1⟩)) before.openUnit.2
  | fails {after : Memory} (error : StoreError) (rearmed : Rearmed memory after) :
      Opening memory (.ready (.error error)) after

theorem tryOpen_opening (progress : Progress) (world : World Memory) :
    Opening world.store (tryOpen progress world).1 (tryOpen progress world).2.store := by
  have entering := enter_entering .opening progress world
  unfold tryOpen afterEntering
  generalize enter .opening progress world = entered at entering
  obtain ⟨result, entered⟩ := entered
  cases entering with
  | sleeps wakeAt rearmed => exact .waits _ rearmed
  | passes rearmed => exact .opens rearmed
  | fails rearmed => exact .fails _ rearmed

theorem tryOpenBy_opening (deadline : Deadline) (progress : Progress) (world : World Memory) :
    Opening world.store (store.tryOpenBy deadline progress world).1
      (store.tryOpenBy deadline progress world).2.store := by
  have opening :
      Opening world.store (store.tryOpen progress world).1 (store.tryOpen progress world).2.store :=
    tryOpen_opening progress world
  unfold LedgerStore.tryOpenBy
  generalize store.tryOpen progress world = opened at opening
  obtain ⟨result, now, cancelled, left, events⟩ := opened
  cases opening with
  | waits progress rearmed =>
      dsimp only
      split
      · exact .fails _ rearmed
      · exact .waits progress rearmed
  | opens rearmed => exact .opens rearmed
  | fails error rearmed => exact .fails error rearmed

/-!
## Requests
-/

inductive Locking (unit : UnitId) (id : AccountId) (memory : Memory) :
    Poll Progress (Except StoreError (Option Account)) → Memory → Prop
  | waits (deadline : Deadline) (free : (memory.join unit id).holds unit id = false) :
      Locking unit id memory (.waiting (.queued deadline)) (memory.join unit id)
  | timesOut (detail : String) (free : (memory.join unit id).holds unit id = false) :
      Locking unit id memory (.ready (.error ⟨.lockTimeout, detail⟩))
        ((memory.join unit id).leave unit id)
  | locks {account : Account} (held : (memory.join unit id).holds unit id = true)
      (seen : (memory.join unit id).view unit id = some account) :
      Locking unit id memory (.ready (.ok (some account))) (memory.join unit id)
  | misses (held : (memory.join unit id).holds unit id = true)
      (unseen : (memory.join unit id).view unit id = none) :
      Locking unit id memory (.ready (.ok none)) ((memory.join unit id).leave unit id)

theorem Locking.acts {result : Poll Progress (Except StoreError (Option Account))}
    (locking : Locking unit id memory result after) : Acts unit memory after := by
  have joins : Acts unit memory (memory.join unit id) := (Act.join id).acts
  cases locking with
  | waits deadline free => exact joins
  | timesOut detail free => exact joins.tail (.leave id)
  | locks held seen => exact joins
  | misses held unseen => exact joins.tail (.leave id)

theorem tryLock_locking (unit : UnitId) (id : AccountId) (deadline : Deadline)
    (world : World Memory) :
    Locking unit id world.store (tryLock unit id deadline world).1
      (tryLock unit id deadline world).2.store := by
  unfold tryLock afterLocking
  cases held : (world.store.join unit id).holds unit id with
  | false =>
      simp only [update, held, Bool.false_eq_true, if_false]
      by_cases passed : deadline.hasPassed world.now
      · simp only [passed, if_true]
        exact .timesOut _ held
      · simp only [passed, Bool.false_eq_true, if_false]
        exact .waits deadline held
  | true =>
      simp only [update, held, if_true]
      cases seen : (world.store.join unit id).view unit id with
      | none => exact .misses held seen
      | some account => exact .locks held seen

/-- What comes of setting a balance. It never times out, since it waits for its row for ever. -/
inductive Setting (unit : UnitId) (id : AccountId) (balance : Money) (memory : Memory) :
    Poll Progress (Except StoreError Unit) → Memory → Prop
  | sleeps {after : Memory} (wakeAt : Nat) (rearmed : Rearmed memory after) :
      Setting unit id balance memory (.waiting (.sleeping wakeAt)) after
  | waits {before : Memory} (rearmed : Rearmed memory before)
      (free : (before.join unit id).holds unit id = false) :
      Setting unit id balance memory (.waiting (.queued .never)) (before.join unit id)
  | fails {after : Memory} (error : StoreError) (noTimeout : error.fault ≠ .lockTimeout)
      (rearmed : Rearmed memory after) :
      Setting unit id balance memory (.ready (.error error)) after
  | misses {before : Memory} (error : StoreError) (noTimeout : error.fault ≠ .lockTimeout)
      (rearmed : Rearmed memory before) :
      Setting unit id balance memory (.ready (.error error)) (before.join unit id)
  | sets {before : Memory} (rearmed : Rearmed memory before)
      (held : (before.join unit id).holds unit id = true)
      (seen : ((before.join unit id).view unit id).isSome) :
      Setting unit id balance memory (.ready (.ok ()))
        ((before.join unit id).setBalance unit id balance)

theorem Setting.noTimeout {balance : Money} {error : StoreError}
    (setting : Setting unit id balance memory (.ready (.error error)) after) :
    error.fault ≠ .lockTimeout := by
  cases setting with
  | fails _ noTimeout rearmed => exact noTimeout
  | misses _ noTimeout rearmed => exact noTimeout

theorem Setting.acts {balance : Money} {result : Poll Progress (Except StoreError Unit)}
    (setting : Setting unit id balance memory result after) : Acts unit memory after := by
  cases setting with
  | sleeps wakeAt rearmed => exact rearmed.acts unit
  | waits rearmed free => exact (rearmed.acts unit).tail (.join id)
  | fails error noTimeout rearmed => exact rearmed.acts unit
  | misses error noTimeout rearmed => exact (rearmed.acts unit).tail (.join id)
  | sets rearmed held seen =>
      exact ((rearmed.acts unit).tail (.join id)).tail (.setBalance id balance held seen)

private theorem trySetHeld_setting (balance : Money) (world : World Memory)
    (rearmed : Rearmed memory world.store) :
    Setting unit id balance memory (trySetHeld unit id balance world).1
      (trySetHeld unit id balance world).2.store := by
  unfold trySetHeld afterLocking
  cases held : (world.store.join unit id).holds unit id with
  | false =>
      simp only [update, held, Bool.false_eq_true, if_false, Deadline.hasPassed_never]
      exact .waits rearmed held
  | true =>
      simp only [update, held, if_true]
      by_cases seen : ((world.store.join unit id).view unit id).isSome
      · simp only [seen, if_true]
        exact .sets rearmed held seen
      · simp only [seen]
        exact .misses _ (by simp) rearmed

/-- Sets a balance once failures and delays have been passed. -/
def trySetChecked (unit : UnitId) (id : AccountId) (balance : Money) (world : World Memory) :
    Attempt Unit :=
  if balance.isNegative then
    (.ready (.error ⟨.constraint,
      "balance of account " ++ id.render ++ " must not be negative"⟩), world)
  else trySetHeld unit id balance world

/-- A balance is set in two stages, and a call that waits for its row is in the second. -/
theorem trySetBalance_cases (progress : Progress) :
    (∃ deadline, progress = .queued deadline ∧ ∀ unit id balance world,
      trySetBalance unit id balance progress world = trySetHeld unit id balance world) ∨
    (∀ deadline, progress ≠ .queued deadline) ∧ ∀ unit id balance world,
      trySetBalance unit id balance progress world =
        afterEntering .setBalance progress world (trySetChecked unit id balance) := by
  cases progress with
  | fresh => exact .inr ⟨nofun, fun _ _ _ _ => rfl⟩
  | sleeping wakeAt => exact .inr ⟨nofun, fun _ _ _ _ => rfl⟩
  | queued deadline => exact .inl ⟨deadline, rfl, fun _ _ _ _ => rfl⟩

theorem trySetBalance_setting (unit : UnitId) (id : AccountId) (balance : Money)
    (progress : Progress) (world : World Memory) :
    Setting unit id balance world.store (trySetBalance unit id balance progress world).1
      (trySetBalance unit id balance progress world).2.store := by
  rcases trySetBalance_cases progress with ⟨_, _, held⟩ | ⟨_, checked⟩
  · rw [held]
    exact trySetHeld_setting balance world (.refl _)
  · have entering := enter_entering .setBalance progress world
    rw [checked, afterEntering]
    generalize enter .setBalance progress world = entered at entering
    obtain ⟨result, entered⟩ := entered
    cases entering with
    | sleeps wakeAt rearmed => exact .sleeps wakeAt rearmed
    | fails rearmed => exact .fails _ (injected_fault .setBalance) rearmed
    | passes rearmed =>
        dsimp only [trySetChecked]
        split
        · exact .fails _ (by simp) rearmed
        · exact trySetHeld_setting balance entered rearmed

inductive Appending (unit : UnitId) (draft : EntryDraft) (memory : Memory) :
    Poll Progress (Except StoreError Entry) → Memory → Prop
  | sleeps {after : Memory} (progress : Progress) (rearmed : Rearmed memory after) :
      Appending unit draft memory (.waiting progress) after
  | fails {after : Memory} (error : StoreError) (noTimeout : error.fault ≠ .lockTimeout)
      (rearmed : Rearmed memory after) : Appending unit draft memory (.ready (.error error)) after
  | appends {before : Memory} (time : Time.Timestamp) (rearmed : Rearmed memory before)
      (seen : ∀ id ∈ draft.account, (before.view unit id).isSome) :
      Appending unit draft memory (.ready (.ok (before.append unit draft time).1))
        (before.append unit draft time).2

theorem Appending.noTimeout {draft : EntryDraft} {error : StoreError}
    (appending : Appending unit draft memory (.ready (.error error)) after) :
    error.fault ≠ .lockTimeout := by
  cases appending with
  | fails _ noTimeout rearmed => exact noTimeout

theorem Appending.acts {draft : EntryDraft} {result : Poll Progress (Except StoreError Entry)}
    (appending : Appending unit draft memory result after) : Acts unit memory after := by
  cases appending with
  | sleeps progress rearmed => exact rearmed.acts unit
  | fails error noTimeout rearmed => exact rearmed.acts unit
  | appends time rearmed seen => exact (rearmed.acts unit).tail (.append draft time seen)

theorem tryAppend_appending (unit : UnitId) (draft : EntryDraft) (progress : Progress)
    (world : World Memory) :
    Appending unit draft world.store (tryAppend unit draft progress world).1
      (tryAppend unit draft progress world).2.store := by
  have entering := enter_entering .append progress world
  unfold tryAppend afterEntering
  generalize enter .append progress world = entered at entering
  obtain ⟨result, entered⟩ := entered
  cases entering with
  | sleeps wakeAt rearmed => exact .sleeps _ rearmed
  | fails rearmed => exact .fails _ (injected_fault .append) rearmed
  | passes rearmed =>
      dsimp only
      split
      · exact .fails _ (by simp) rearmed
      · next known =>
          refine .appends _ rearmed fun id member => ?_
          simp only [Option.filter_eq_none_iff] at known
          simpa [Option.isSome_iff_ne_none] using known id member

inductive Inserting (unit : UnitId) (registration : Registration) (memory : Memory) :
    Poll Progress (Except StoreError Account) → Memory → Prop
  | refuses (error : StoreError) : Inserting unit registration memory (.ready (.error error)) memory
  | inserts (free : memory.isTaken unit registration.username = false) :
      Inserting unit registration memory (.ready (.ok (memory.create unit registration).1))
        (memory.create unit registration).2

theorem Inserting.acts {registration : Registration}
    {result : Poll Progress (Except StoreError Account)}
    (inserting : Inserting unit registration memory result after) : Acts unit memory after := by
  cases inserting with
  | refuses error => exact .refl
  | inserts free => exact (Act.create registration free).acts

theorem tryInsert_inserting (unit : UnitId) (registration : Registration) (world : World Memory) :
    Inserting unit registration world.store (tryInsert unit registration world).1
      (tryInsert unit registration world).2.store := by
  unfold tryInsert
  split
  · exact .refuses _
  · next free => exact .inserts (by simpa using free)

/-- Whatever a unit asks, it only changes what is its own. -/
theorem tryAsk_acts (unit : UnitId) (request : Request) (progress : Progress)
    (world : World Memory) :
    Acts unit world.store (tryAsk unit request progress world).2.store := by
  cases request with
  | lock id deadline => exact (tryLock_locking unit id deadline world).acts
  | find id => exact .refl
  | findName username => exact .refl
  | insert registration => exact (tryInsert_inserting unit registration world).acts
  | setBalance id balance => exact (trySetBalance_setting unit id balance progress world).acts
  | append draft => exact (tryAppend_appending unit draft progress world).acts
  | list id => exact .refl

/-- Whether the units of work have staged the same, and no number has been given out in between. -/
structure Unwritten (memory after : Memory) : Prop where
  units : after.units = memory.units
  lastAccount : after.lastAccount = memory.lastAccount
  lastEntry : after.lastEntry = memory.lastEntry

theorem Unwritten.refl (memory : Memory) : Unwritten memory memory := ⟨rfl, rfl, rfl⟩

theorem Rearmed.unwritten (rearmed : Rearmed memory after) : Unwritten memory after := by
  obtain ⟨faults, delays, rfl⟩ := rearmed
  exact ⟨rfl, rfl, rfl⟩

theorem Unwritten.join (unwritten : Unwritten memory after) (unit : UnitId) (id : AccountId) :
    Unwritten memory (after.join unit id) := by
  unfold Memory.join
  split
  · exact unwritten
  · exact ⟨unwritten.units, unwritten.lastAccount, unwritten.lastEntry⟩

/-- What a request that is tried stages, and what it gets for it. -/
inductive Staging (unit : UnitId) (memory : Memory) :
    (request : Request) → Poll Progress (Except StoreError request.Reply) → Memory → Prop
  | nothing {request : Request} {result : Poll Progress (Except StoreError request.Reply)}
      {after : Memory} (unwritten : Unwritten memory after)
      (unheard : request.writes = true → ∀ reply, result ≠ .ready (.ok reply)) :
      Staging unit memory request result after
  | creates (registration : Registration)
      (free : memory.isTaken unit registration.username = false) :
      Staging unit memory (.insert registration) (.ready (.ok (memory.create unit registration).1))
        (memory.create unit registration).2
  | sets (id : AccountId) (balance : Money) {before : Memory}
      (unwritten : Unwritten memory before) :
      Staging unit memory (.setBalance id balance) (.ready (.ok ()))
        (before.setBalance unit id balance)
  | appends (draft : EntryDraft) (time : Time.Timestamp) {before : Memory}
      (unwritten : Unwritten memory before) :
      Staging unit memory (.append draft) (.ready (.ok (before.append unit draft time).1))
        (before.append unit draft time).2

theorem Locking.unwritten {result : Poll Progress (Except StoreError (Option Account))}
    (locking : Locking unit id memory result after) : Unwritten memory after := by
  have joined := (Unwritten.refl memory).join unit id
  cases locking with
  | waits deadline free => exact joined
  | timesOut detail free => exact ⟨joined.units, joined.lastAccount, joined.lastEntry⟩
  | locks held seen => exact joined
  | misses held unseen => exact ⟨joined.units, joined.lastAccount, joined.lastEntry⟩

theorem Inserting.staging {registration : Registration}
    {result : Poll Progress (Except StoreError Account)}
    (inserting : Inserting unit registration memory result after) :
    Staging unit memory (.insert registration) result after := by
  cases inserting with
  | refuses error => exact .nothing (.refl memory) fun _ reply same => by cases same
  | inserts free => exact .creates registration free

theorem Setting.staging {balance : Money} {result : Poll Progress (Except StoreError Unit)}
    (setting : Setting unit id balance memory result after) :
    Staging unit memory (.setBalance id balance) result after := by
  cases setting with
  | sleeps wakeAt rearmed => exact .nothing rearmed.unwritten fun _ reply same => by cases same
  | waits rearmed free =>
      exact .nothing (rearmed.unwritten.join unit id) fun _ reply same => by cases same
  | fails error noTimeout rearmed =>
      exact .nothing rearmed.unwritten fun _ reply same => by cases same
  | misses error noTimeout rearmed =>
      exact .nothing (rearmed.unwritten.join unit id) fun _ reply same => by cases same
  | sets rearmed held seen => exact .sets id balance (rearmed.unwritten.join unit id)

theorem Appending.staging {draft : EntryDraft} {result : Poll Progress (Except StoreError Entry)}
    (appending : Appending unit draft memory result after) :
    Staging unit memory (.append draft) result after := by
  cases appending with
  | sleeps progress rearmed => exact .nothing rearmed.unwritten fun _ reply same => by cases same
  | fails error noTimeout rearmed =>
      exact .nothing rearmed.unwritten fun _ reply same => by cases same
  | appends time rearmed seen => exact .appends draft time rearmed.unwritten

theorem tryAsk_staging (unit : UnitId) (request : Request) (progress : Progress)
    (world : World Memory) :
    Staging unit world.store request (tryAsk unit request progress world).1
      (tryAsk unit request progress world).2.store := by
  cases request with
  | lock id deadline =>
      exact .nothing (tryLock_locking unit id deadline world).unwritten
        fun writes => by cases writes
  | find id => exact .nothing (.refl _) fun writes => by cases writes
  | findName username => exact .nothing (.refl _) fun writes => by cases writes
  | insert registration => exact (tryInsert_inserting unit registration world).staging
  | setBalance id balance => exact (trySetBalance_setting unit id balance progress world).staging
  | append draft => exact (tryAppend_appending unit draft progress world).staging
  | list id => exact .nothing (.refl _) fun writes => by cases writes

/-- A request that is left waiting has staged nothing. -/
theorem units_of_waiting {request : Request} {progress later : Progress} {world left : World Memory}
    (tried : tryAsk unit request progress world = (.waiting later, left)) :
    left.store.units = world.store.units := by
  have staging := tryAsk_staging unit request progress world
  rw [tried] at staging
  generalize left.store = after at staging ⊢
  cases staging with
  | nothing unwritten unheard => exact unwritten.units

/-!
## Endings
-/

inductive Committing (unit : UnitId) (memory : Memory) :
    Poll Progress (Except StoreError Unit) → Memory → Prop
  | sleeps {after : Memory} (progress : Progress) (rearmed : Rearmed memory after) :
      Committing unit memory (.waiting progress) after
  | fails {before : Memory} (error : StoreError) (rearmed : Rearmed memory before) :
      Committing unit memory (.ready (.error error)) (before.discard unit)
  | commits {before : Memory} (rearmed : Rearmed memory before) (free : before.clash? unit = none) :
      Committing unit memory (.ready (.ok ())) (before.publish unit)

theorem Committing.rearmed {progress : Progress}
    (committing : Committing unit memory (.waiting progress) after) :
    Rearmed memory after := by
  cases committing with
  | sleeps _ rearmed => exact rearmed

theorem tryCommit_committing (unit : UnitId) (progress : Progress) (world : World Memory) :
    Committing unit world.store (tryCommit unit progress world).1
      (tryCommit unit progress world).2.store := by
  have entering := enter_entering .commit progress world
  unfold tryCommit
  generalize enter .commit progress world = entered at entering
  obtain ⟨result, entered⟩ := entered
  cases entering with
  | sleeps wakeAt rearmed => exact .sleeps _ rearmed
  | fails rearmed => exact .fails _ rearmed
  | passes rearmed =>
      dsimp only
      split
      · exact .fails _ rearmed
      · next free => exact .commits rearmed free

inductive RollingBack (unit : UnitId) (memory : Memory) :
    Poll Progress (Except StoreError Unit) → Memory → Prop
  | sleeps {after : Memory} (progress : Progress) (rearmed : Rearmed memory after) :
      RollingBack unit memory (.waiting progress) after
  | rollsBack {before : Memory} (result : Except StoreError Unit)
      (rearmed : Rearmed memory before) :
      RollingBack unit memory (.ready result) (before.discard unit)

theorem RollingBack.rearmed {progress : Progress}
    (rollingBack : RollingBack unit memory (.waiting progress) after) :
    Rearmed memory after := by
  cases rollingBack with
  | sleeps _ rearmed => exact rearmed

theorem tryRollback_rollingBack (unit : UnitId) (progress : Progress) (world : World Memory) :
    RollingBack unit world.store (tryRollback unit progress world).1
      (tryRollback unit progress world).2.store := by
  have entering := enter_entering .rollback progress world
  unfold tryRollback
  generalize enter .rollback progress world = entered at entering
  obtain ⟨result, entered⟩ := entered
  cases entering with
  | sleeps wakeAt rearmed => exact .sleeps _ rearmed
  | fails rearmed => exact .rollsBack _ rearmed
  | passes rearmed => exact .rollsBack _ rearmed

theorem withdraw_acts (unit : UnitId) (request : Request) (progress : Progress)
    (world : World Memory) :
    Acts unit world.store (withdraw unit request progress world).store := by
  unfold withdraw
  split
  · exact (Act.leave _).acts
  · exact (Act.leave _).acts
  · exact .refl

end Passbook.Memory
