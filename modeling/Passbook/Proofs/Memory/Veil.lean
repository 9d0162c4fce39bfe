import Passbook.Memory.Store
import Passbook.Proofs.Memory.Outcome
import Passbook.Proofs.Memory.Published

/-!
Ledgers with their password hashes covered. Whatever a store call does, it does the same with the
hashes covered: what it replies, what it leaves and how long it waits do not depend on them.
-/

set_option autoImplicit false

namespace Passbook

/-- The text that stands for every password hash. -/
def coverText : String := "*"

def Account.veiled (account : Account) : Account := { account with passwordHash := coverText }

def Registration.veiled (registration : Registration) : Registration :=
  { registration with passwordHash := coverText, hashed := by decide }

def Staged.veiled (staged : Staged) : Staged :=
  { staged with created := staged.created.map Account.veiled }

theorem Registration.veiled_eq {one other : Registration} (same : one.username = other.username) :
    one.veiled = other.veiled := by
  cases one
  cases other
  cases same
  rfl

namespace Request

def veiled : Request → Request
  | insert registration => insert registration.veiled
  | request => request

/-- The reply to a request, as the reply to the request with its hash covered. -/
def veilReply : (request : Request) → request.Reply → request.veiled.Reply
  | lock _ _ => Option.map Account.veiled
  | find _ => Option.map Account.veiled
  | findName _ => Option.map Account.veiled
  | insert _ => Account.veiled
  | setBalance _ _ => id
  | append _ => id
  | list _ => id

end Request

theorem assign_map {α β γ : Type} [DecidableEq α] (change : β → γ) (table : α → β) (key : α)
    (value : β) :
    assign (fun other => change (table other)) key (change value) =
      fun other => change (assign table key value other) := by
  funext other
  by_cases same : other = key
  · rw [same, assign_same, assign_same]
  · rw [assign_other _ _ same, assign_other _ _ same]

namespace Memory

def veiled (memory : Memory) : Memory where
  accounts := memory.accounts.map Account.veiled
  entries := memory.entries
  units unit := (memory.units unit).map Staged.veiled
  queues := memory.queues
  faults := memory.faults
  delays := memory.delays
  lastAccount := memory.lastAccount
  lastEntry := memory.lastEntry
  lastUnit := memory.lastUnit

/-!
## Reading
-/

theorem staged_veiled (memory : Memory) (unit : UnitId) :
    memory.veiled.staged unit = (memory.staged unit).veiled := by
  have units : memory.veiled.units unit = (memory.units unit).map Staged.veiled := rfl
  rw [Memory.staged, Memory.staged, units]
  cases memory.units unit <;> rfl

private theorem find?_veiled (accounts : List Account) {wanted : Account → Bool}
    (blind : ∀ account, wanted account.veiled = wanted account) :
    (accounts.map Account.veiled).find? wanted = (accounts.find? wanted).map Account.veiled := by
  rw [List.find?_map, show wanted ∘ Account.veiled = wanted from funext blind]

theorem account?_veiled (memory : Memory) (id : AccountId) :
    memory.veiled.account? id = (memory.account? id).map Account.veiled :=
  find?_veiled memory.accounts fun _ => rfl

private theorem orElse_veiled (one other : Option Account) :
    (one.map Account.veiled <|> other.map Account.veiled) = (one <|> other).map Account.veiled := by
  cases one <;> rfl

theorem view_veiled (memory : Memory) (unit : UnitId) (id : AccountId) :
    memory.veiled.view unit id = (memory.view unit id).map Account.veiled := by
  have created : (memory.staged unit).veiled.created.find? (fun account => account.id == id) =
      ((memory.staged unit).created.find? fun account => account.id == id).map Account.veiled :=
    find?_veiled (memory.staged unit).created fun _ => rfl
  have overlaid : (memory.staged unit).veiled.overlay ∘ Account.veiled =
      Account.veiled ∘ (memory.staged unit).overlay := rfl
  simp only [view, staged_veiled, account?_veiled, created, orElse_veiled, Option.map_map, overlaid]

theorem idOfName?_veiled (memory : Memory) (unit : UnitId) (username : String) :
    memory.veiled.idOfName? unit username = memory.idOfName? unit username := by
  have created :
    (memory.staged unit).veiled.created.find? (fun account => account.username == username) =
      ((memory.staged unit).created.find? fun account => account.username == username).map
        Account.veiled :=
    find?_veiled (memory.staged unit).created fun _ => rfl
  have committed : memory.veiled.accounts.find? (fun account => account.username == username) =
      (memory.accounts.find? fun account => account.username == username).map Account.veiled :=
    find?_veiled memory.accounts fun _ => rfl
  have numbered : Account.id ∘ Account.veiled = Account.id := rfl
  simp only [idOfName?, staged_veiled, created, committed, orElse_veiled, Option.map_map, numbered]

theorem isTaken_veiled (memory : Memory) (unit : UnitId) (username : String) :
    memory.veiled.isTaken unit username = memory.isTaken unit username := by
  rw [isTaken, isTaken, idOfName?_veiled]

theorem history_veiled (memory : Memory) (unit : UnitId) (id : AccountId) :
    memory.veiled.history unit id = memory.history unit id := by
  rw [history, history, staged_veiled]
  rfl

theorem clash?_veiled (memory : Memory) (unit : UnitId) :
    memory.veiled.clash? unit = (memory.clash? unit).map Account.veiled := by
  have committed : ∀ account : Account,
    (memory.veiled.accounts.any fun other => other.username == account.username) =
      memory.accounts.any fun other => other.username == account.username :=
    fun account => List.any_map
  simp only [clash?, staged_veiled, committed]
  exact find?_veiled (memory.staged unit).created fun _ => rfl

/-!
## Writing
-/

theorem join_veiled (memory : Memory) (unit : UnitId) (id : AccountId) :
    memory.veiled.join unit id = (memory.join unit id).veiled := by
  unfold join
  rw [show memory.veiled.queues = memory.queues from rfl]
  split <;> rfl

theorem stage_veiled (memory : Memory) (unit : UnitId) (staged : Staged) :
    memory.veiled.stage unit staged.veiled = (memory.stage unit staged).veiled := by
  have units := assign_map (Option.map Staged.veiled) memory.units unit (some staged)
  simp only [stage, veiled, ← units]
  rfl

theorem discard_veiled (memory : Memory) (unit : UnitId) :
    memory.veiled.discard unit = (memory.discard unit).veiled := by
  have units := assign_map (Option.map Staged.veiled) memory.units unit none
  simp only [discard, veiled, ← units]
  rfl

theorem openUnit_veiled (memory : Memory) :
    memory.veiled.openUnit = (memory.openUnit.1, memory.openUnit.2.veiled) := by
  have units :=
    assign_map (Option.map Staged.veiled) memory.units ⟨memory.lastUnit + 1⟩ (some .empty)
  simp only [openUnit, veiled, ← units]
  rfl

theorem create_veiled (memory : Memory) (unit : UnitId) (registration : Registration) :
    memory.veiled.create unit registration.veiled =
      ((memory.create unit registration).1.veiled, (memory.create unit registration).2.veiled) := by
  have created : (memory.staged unit).veiled.created ++
    [registration.veiled.account ⟨memory.lastAccount + 1⟩] =
      ((memory.staged unit).created ++ [registration.account ⟨memory.lastAccount + 1⟩]).map
        Account.veiled := by
    rw [List.map_append]
    rfl
  have staged := stage_veiled memory unit { memory.staged unit with
    created := (memory.staged unit).created ++ [registration.account ⟨memory.lastAccount + 1⟩] }
  rw [Staged.veiled, ← created] at staged
  rw [create, create, staged_veiled]
  exact congrArg (fun later : Memory => (registration.veiled.account ⟨memory.lastAccount + 1⟩,
    { later with lastAccount := memory.lastAccount + 1 })) staged

theorem setBalance_veiled (memory : Memory) (unit : UnitId) (id : AccountId) (balance : Money) :
    memory.veiled.setBalance unit id balance = (memory.setBalance unit id balance).veiled := by
  rw [setBalance, setBalance, staged_veiled]
  exact stage_veiled memory unit
    { memory.staged unit with balances := assign (memory.staged unit).balances id (some balance) }

theorem append_veiled (memory : Memory) (unit : UnitId) (draft : EntryDraft)
    (time : Time.Timestamp) :
    memory.veiled.append unit draft time =
      ((memory.append unit draft time).1, (memory.append unit draft time).2.veiled) := by
  have staged := stage_veiled memory unit { memory.staged unit with
    entries := (memory.staged unit).entries ++ [draft.entry ⟨memory.lastEntry + 1⟩ time] }
  rw [append, append, staged_veiled]
  exact congrArg (fun later : Memory => (draft.entry ⟨memory.lastEntry + 1⟩ time,
    { later with lastEntry := memory.lastEntry + 1 })) staged

theorem publish_veiled (memory : Memory) (unit : UnitId) :
    memory.veiled.publish unit = (memory.publish unit).veiled := by
  have accounts : (memory.veiled.accounts ++ (memory.staged unit).veiled.created).map
    (memory.staged unit).veiled.overlay =
      ((memory.accounts ++ (memory.staged unit).created).map (memory.staged unit).overlay).map
        Account.veiled := by
    rw [show memory.veiled.accounts ++ (memory.staged unit).veiled.created =
      (memory.accounts ++ (memory.staged unit).created).map Account.veiled from
        List.map_append.symm, List.map_map, List.map_map]
    rfl
  rw [publish, publish, staged_veiled]
  simp only [accounts]
  exact discard_veiled { memory with
    accounts := (memory.accounts ++ (memory.staged unit).created).map (memory.staged unit).overlay
    entries := memory.entries ++ (memory.staged unit).entries } unit

/-!
## Store calls
-/

/-- The surroundings of a call, with the hashes covered. -/
def cover (world : World Memory) : World Memory := update world veiled

@[simp] theorem store_cover (world : World Memory) : (cover world).store = world.store.veiled := rfl

@[simp] theorem now_cover (world : World Memory) : (cover world).now = world.now := rfl

/-- What a call has come to, with the hashes covered. -/
def covered {ε α β : Type} (change : α → β) :
    Poll Progress (Except ε α) × World Memory → Poll Progress (Except ε β) × World Memory
  | (.waiting progress, world) => (.waiting progress, cover world)
  | (.ready result, world) => (.ready (result.map change), cover world)

variable {α β : Type} {change : α → β} {world : World Memory}

private theorem checkFault_veiled (point : FaultPoint) (world : World Memory) :
    checkFault point (cover world) = covered id (checkFault point world) := by
  unfold checkFault
  rw [show (cover world).store.faults = world.store.faults from rfl]
  split <;> rfl

private theorem enter_veiled (point : FaultPoint) (progress : Progress) (world : World Memory) :
    enter point progress (cover world) = covered id (enter point progress world) := by
  have due : dueAt point progress (cover world) = dueAt point progress world := by
    cases progress <;> rfl
  have begins : begun point progress (cover world) = cover (begun point progress world) := by
    cases progress <;> rfl
  rw [enter_eq, enter_eq, due, begins, now_cover]
  split
  · exact checkFault_veiled point _
  · rfl

private theorem afterEntering_veiled {next : World Memory → Attempt α}
    {other : World Memory → Attempt β} (point : FaultPoint) (progress : Progress)
    (same : ∀ world, other (cover world) = covered change (next world)) :
    afterEntering point progress (cover world) other =
      covered change (afterEntering point progress world next) := by
  unfold afterEntering
  rw [enter_veiled]
  rcases enter point progress world with ⟨later | error | ⟨⟩, entered⟩
  · rfl
  · rfl
  · exact same entered

private theorem afterLocking_veiled {next : World Memory → Attempt α}
    {other : World Memory → Attempt β} (unit : UnitId) (id : AccountId) (deadline : Deadline)
    (same : ∀ world, other (cover world) = covered change (next world)) :
    afterLocking unit id deadline (cover world) other =
      covered change (afterLocking unit id deadline world next) := by
  have joined : update (cover world) (fun memory => memory.join unit id) =
      cover (update world fun memory => memory.join unit id) := by
    simp only [cover, update, join_veiled]
  unfold afterLocking
  simp only [joined]
  generalize update world (fun memory => memory.join unit id) = joined
  rw [show (cover joined).store.holds unit id = joined.store.holds unit id from rfl, now_cover]
  split
  · exact same joined
  · split <;> rfl

private theorem tryOpen_veiled (progress : Progress) (world : World Memory) :
    tryOpen progress (cover world) = covered id (tryOpen progress world) := by
  refine afterEntering_veiled .opening progress fun world => ?_
  simp only [store_cover, openUnit_veiled]
  rfl

theorem tryOpenBy_veiled (deadline : Deadline) (progress : Progress) (world : World Memory) :
    store.tryOpenBy deadline progress (cover world) =
      covered id (store.tryOpenBy deadline progress world) := by
  have opened : store.tryOpen progress (cover world) = covered id (store.tryOpen progress world) :=
    tryOpen_veiled progress world
  unfold LedgerStore.tryOpenBy
  rw [opened]
  rcases store.tryOpen progress world with ⟨later | result, left⟩
  · simp only [covered]
    rw [now_cover]
    split <;> rfl
  · rfl

private theorem tryLock_veiled (unit : UnitId) (row : AccountId) (deadline : Deadline)
    (world : World Memory) :
    tryLock unit row deadline (cover world) =
      covered (Option.map Account.veiled) (tryLock unit row deadline world) := by
  refine afterLocking_veiled unit row deadline fun world => ?_
  rw [store_cover, view_veiled]
  cases world.store.view unit row <;> rfl

private theorem tryInsert_veiled (unit : UnitId) (registration : Registration)
    (world : World Memory) :
    tryInsert unit registration.veiled (cover world) =
      covered Account.veiled (tryInsert unit registration world) := by
  unfold tryInsert
  rw [store_cover, show registration.veiled.username = registration.username from rfl,
    isTaken_veiled, create_veiled]
  split <;> rfl

private theorem trySetHeld_veiled (unit : UnitId) (row : AccountId) (balance : Money)
    (world : World Memory) :
    trySetHeld unit row balance (cover world) = covered id (trySetHeld unit row balance world) := by
  refine afterLocking_veiled unit row .never fun world => ?_
  have set : update (cover world) (fun memory => memory.setBalance unit row balance) =
      cover (update world fun memory => memory.setBalance unit row balance) := by
    simp only [cover, update, setBalance_veiled]
  rw [store_cover, view_veiled, Option.isSome_map, set]
  split <;> rfl

private theorem trySetBalance_veiled (unit : UnitId) (row : AccountId) (balance : Money)
    (progress : Progress) (world : World Memory) :
    trySetBalance unit row balance progress (cover world) =
      covered id (trySetBalance unit row balance progress world) := by
  rcases trySetBalance_cases progress with ⟨_, _, held⟩ | ⟨_, checked⟩
  · rw [held, held]
    exact trySetHeld_veiled unit row balance world
  · rw [checked, checked]
    refine afterEntering_veiled .setBalance progress fun world => ?_
    unfold trySetChecked
    split
    · rfl
    · exact trySetHeld_veiled unit row balance world

private theorem tryAppend_veiled (unit : UnitId) (draft : EntryDraft) (progress : Progress)
    (world : World Memory) :
    tryAppend unit draft progress (cover world) =
      covered id (tryAppend unit draft progress world) := by
  refine afterEntering_veiled .append progress fun world => ?_
  have unknown : ∀ row, ((cover world).store.view unit row).isNone =
      (world.store.view unit row).isNone := by
    intro row
    rw [store_cover, view_veiled, Option.isNone_map]
  simp only [unknown]
  split
  · rfl
  · rw [store_cover, append_veiled]
    rfl

/-- A request does the same with the hashes covered. -/
theorem tryAsk_veiled (unit : UnitId) (request : Request) (progress : Progress)
    (world : World Memory) :
    tryAsk unit request.veiled progress (cover world) =
      covered request.veilReply (tryAsk unit request progress world) := by
  have reads : ∀ {α β : Type} (change : α → β) {found : α} {other : β}, other = change found →
      ((.ready (.ok other), cover world) : Attempt β) =
        covered change (.ready (.ok found), world) := by
    rintro α β change found other rfl
    rfl
  cases request with
  | lock row deadline => exact tryLock_veiled unit row deadline world
  | find row => exact reads _ (view_veiled world.store unit row)
  | findName username =>
      have found :
        (world.store.veiled.idOfName? unit username).bind (world.store.veiled.view unit) =
          ((world.store.idOfName? unit username).bind (world.store.view unit)).map
            Account.veiled := by
        rw [idOfName?_veiled, Option.map_bind, funext (view_veiled world.store unit)]
        rfl
      exact reads _ found
  | insert registration => exact tryInsert_veiled unit registration world
  | setBalance row balance => exact trySetBalance_veiled unit row balance progress world
  | append draft => exact tryAppend_veiled unit draft progress world
  | list row => exact reads _ (history_veiled world.store unit row)

private theorem update_discard_veiled (unit : UnitId) (world : World Memory) :
    update (cover world) (fun memory => memory.discard unit) =
      cover (update world fun memory => memory.discard unit) := by
  simp only [cover, update, discard_veiled]

theorem tryFinish_veiled (unit : UnitId) (ending : Ending) (progress : Progress)
    (world : World Memory) :
    tryFinish unit ending progress (cover world) =
      covered id (tryFinish unit ending progress world) := by
  cases ending with
  | commit =>
      change tryCommit unit progress (cover world) = covered id (tryCommit unit progress world)
      unfold tryCommit
      rw [enter_veiled]
      rcases enter .commit progress world with ⟨later | error | ⟨⟩, entered⟩
      · rfl
      · simp only [covered, Except.map, update_discard_veiled]
      · have published : update (cover entered) (fun memory => memory.publish unit) =
            cover (update entered fun memory => memory.publish unit) := by
          simp only [cover, update, publish_veiled]
        simp only [covered, Except.map]
        rw [store_cover, clash?_veiled]
        cases entered.store.clash? unit with
        | none => simp only [Option.map_none, published]
        | some account =>
            simp only [Option.map_some, update_discard_veiled]
            rfl
  | rollback =>
      change tryRollback unit progress (cover world) = covered id (tryRollback unit progress world)
      unfold tryRollback
      rw [enter_veiled]
      rcases enter .rollback progress world with ⟨later | result, entered⟩
      · rfl
      · simp only [covered, update_discard_veiled]

theorem withdraw_veiled (unit : UnitId) (request : Request) (progress : Progress)
    (world : World Memory) :
    withdraw unit request.veiled progress (cover world) =
      cover (withdraw unit request progress world) := by
  cases request <;> cases progress <;> rfl

theorem drop_veiled (unit : UnitId) (world : World Memory) :
    store.drop unit (cover world) = cover (store.drop unit world) :=
  update_discard_veiled unit world

theorem drop_withdraw_veiled (unit : UnitId) (request : Request) (progress : Progress)
    (world : World Memory) :
    store.drop unit (store.withdraw unit request.veiled progress (cover world)) =
      cover (store.drop unit (store.withdraw unit request progress world)) := by
  rw [← drop_veiled]
  exact congrArg (store.drop unit) (withdraw_veiled unit request progress world)

end Memory

end Passbook
