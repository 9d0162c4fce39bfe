import Passbook.Proofs.Memory.Standing

/-!
What is behind the rows in whose queues a unit of work stands: an account that the unit sees, unless
it still waits for the row, or has been told there that a balance cannot be set because the row is
missing. Such a refusal leaves the unit where it stands.
-/

set_option autoImplicit false

namespace Passbook

/-- The row of which a reply says that it is missing, so that no balance can be set there. -/
def Request.missed? : (request : Request) → Except StoreError request.Reply → Option AccountId
  | .setBalance id _, .error error => if error.fault = .missingRow then some id else none
  | _, _ => none

/-- The row at which a unit may stand without seeing an account, after it has tried a request with
this result. -/
def Request.unseen? (request : Request) :
    Poll Memory.Progress (Except StoreError request.Reply) → Option AccountId
  | .waiting next => request.awaited? next
  | .ready reply => request.missed? reply

namespace Memory

variable {memory after : Memory} {unit : UnitId} {id : AccountId} {missed : AccountId → Prop}
  {unseen? : Option AccountId}

/-- Whether a unit sees an account behind every row in whose queue it stands, but for rows that it
missed earlier, and one row besides. -/
def Footed (memory : Memory) (unit : UnitId) (missed : AccountId → Prop)
    (unseen? : Option AccountId) : Prop :=
  ∀ row, unit ∈ memory.queues row → (memory.view unit row).isSome ∨ missed row ∨ unseen? = some row

theorem Act.isSome_view (act : Act unit memory after) (seen : (memory.view unit id).isSome) :
    (after.view unit id).isSome := by
  have plain : after.units unit = memory.units unit → after.accounts = memory.accounts →
      (after.view unit id).isSome := by
    intro units accounts
    rwa [view_congr units (account?_congr accounts id)]
  cases act with
  | rearm faults delays => exact seen
  | join row =>
      exact plain (congrFun (units_join memory unit row) unit) (accounts_join memory unit row)
  | leave row => exact seen
  | create registration free => exact isSome_view_create registration seen
  | setBalance row balance held present => rwa [view_setBalance, Option.isSome_map]
  | append draft time present => rwa [view_append]

/-- What a unit sees of an account does not go away by what it does before it ends. -/
theorem Acts.isSome_view (acts : Acts unit memory after) (seen : (memory.view unit id).isSome) :
    (after.view unit id).isSome := by
  induction acts with
  | refl => exact seen
  | tail _ act ih => exact act.isSome_view ih

/-!
## Setting a balance
-/

/-- What comes of setting a balance when the failures and delays that were ordered are over: a unit
that is told that the row is missing has taken it all the same. -/
inductive Taking (unit : UnitId) (id : AccountId) (balance : Money) (memory : Memory) :
    Poll Progress (Except StoreError Unit) → Memory → Prop
  | waits (free : (memory.join unit id).holds unit id = false) :
      Taking unit id balance memory (.waiting (.queued .never)) (memory.join unit id)
  | misses (detail : String) (held : (memory.join unit id).holds unit id = true)
      (unseen : (memory.join unit id).view unit id = none) :
      Taking unit id balance memory (.ready (.error ⟨.missingRow, detail⟩)) (memory.join unit id)
  | sets (held : (memory.join unit id).holds unit id = true)
      (seen : ((memory.join unit id).view unit id).isSome) :
      Taking unit id balance memory (.ready (.ok ()))
        ((memory.join unit id).setBalance unit id balance)

private theorem trySetHeld_taking (unit : UnitId) (id : AccountId) (balance : Money)
    (world : World Memory) :
    Taking unit id balance world.store (trySetHeld unit id balance world).1
      (trySetHeld unit id balance world).2.store := by
  unfold trySetHeld afterLocking
  cases held : (world.store.join unit id).holds unit id with
  | false =>
      simp only [update, held, Bool.false_eq_true, if_false, Deadline.hasPassed_never]
      exact .waits held
  | true =>
      simp only [update, held, if_true]
      by_cases seen : ((world.store.join unit id).view unit id).isSome
      · simp only [seen, if_true]
        exact .sets held seen
      · simp only [seen]
        exact .misses _ held (Option.not_isSome_iff_eq_none.mp seen)

/-- What comes of setting a balance: it stops before the row is asked for, or it goes on to take the
row. -/
inductive Balancing (unit : UnitId) (id : AccountId) (balance : Money) (progress : Progress)
    (memory : Memory) :
    Poll Progress (Except StoreError Unit) → Memory → Prop
  | stops {result : Poll Progress (Except StoreError Unit)} {after : Memory}
      (unawaited : (Request.setBalance id balance).awaited? progress = none)
      (rearmed : Rearmed memory after)
      (unmissed : (Request.setBalance id balance).unseen? result = none) :
      Balancing unit id balance progress memory result after
  | takes {before after : Memory} {result : Poll Progress (Except StoreError Unit)}
      (rearmed : Rearmed memory before) (taking : Taking unit id balance before result after) :
      Balancing unit id balance progress memory result after

theorem trySetBalance_balancing (unit : UnitId) (id : AccountId) (balance : Money)
    (progress : Progress) (world : World Memory) :
    Balancing unit id balance progress world.store (trySetBalance unit id balance progress world).1
      (trySetBalance unit id balance progress world).2.store := by
  rcases trySetBalance_cases progress with ⟨_, _, held⟩ | ⟨unqueued, checked⟩
  · rw [held]
    exact .takes (.refl _) (trySetHeld_taking unit id balance world)
  · have unawaited : (Request.setBalance id balance).awaited? progress = none := by
      cases progress with
      | fresh => rfl
      | sleeping wakeAt => rfl
      | queued deadline => exact absurd rfl (unqueued deadline)
    have entering := enter_entering .setBalance progress world
    rw [checked, afterEntering]
    generalize enter .setBalance progress world = entered at entering
    obtain ⟨result, entered⟩ := entered
    cases entering with
    | sleeps wakeAt rearmed => exact .stops unawaited rearmed rfl
    | fails rearmed => exact .stops unawaited rearmed rfl
    | passes rearmed =>
        dsimp only [trySetChecked]
        split
        · exact .stops unawaited rearmed rfl
        · exact .takes rearmed (trySetHeld_taking unit id balance entered)

/-- A unit waits only for the row that its request needs. -/
theorem row_of_awaited {request : Request} {progress : Progress} (needs : request.row? = some id)
    (row : AccountId) (awaited : request.awaited? progress = some row) : row = id := by
  cases progress with
  | fresh => cases awaited
  | sleeping wakeAt => cases awaited
  | queued deadline => exact Option.some.inj (awaited.symm.trans needs)

/-!
## Where a unit stands
-/

namespace Footed

theorem wider {more : AccountId → Prop} (footed : Footed memory unit missed unseen?)
    (wide : ∀ row, missed row → more row) :
    Footed memory unit more unseen? :=
  fun row member => (footed row member).imp_right (.imp_left (wide row))

/-- A row that a unit has just missed is one of those that it missed. -/
theorem settled (footed : Footed memory unit missed unseen?)
    (told : ∀ row, unseen? = some row → missed row) :
    Footed memory unit missed none :=
  fun row member => (footed row member).imp_right fun excused => .inl (excused.elim id (told row))

theorem nowhere (absent : ∀ row, unit ∉ memory.queues row) : Footed memory unit missed unseen? :=
  fun row member => absurd member (absent row)

/-- What holds of all rows but one, and of that one as well. -/
private theorem besides (footed : Footed memory unit missed unseen?) (acts : Acts unit memory after)
    (within : ∀ row, unseen? = some row → row = id) {next? : Option AccountId}
    (elsewhere : ∀ row, row ≠ id → unit ∈ after.queues row → unit ∈ memory.queues row)
    (here : unit ∈ after.queues id → (after.view unit id).isSome ∨ missed id ∨ next? = some id) :
    Footed after unit missed next? := by
  intro row member
  by_cases same : row = id
  · subst same
    exact here member
  · rcases footed row (elsewhere row same member) with seen | excused | unseen
    · exact .inl (acts.isSome_view seen)
    · exact .inr (.inl excused)
    · exact absurd (within row unseen) same

/-- As long as a unit is in no other queues than before, it stands as well as before. -/
theorem acts (footed : Footed memory unit missed none) (acts : Acts unit memory after)
    (queues : after.queues = memory.queues) (next? : Option AccountId) :
    Footed after unit missed next? := by
  intro row member
  rw [queues] at member
  rcases footed row member with seen | excused | ⟨⟨⟩⟩
  · exact .inl (acts.isSome_view seen)
  · exact .inr (.inl excused)

theorem rearmed (footed : Footed memory unit missed unseen?) (rearmed : Rearmed memory after) :
    Footed after unit missed unseen? := by
  intro row member
  rw [rearmed.queues] at member
  exact (footed row member).imp_left (rearmed.acts unit).isSome_view

private theorem mem_join {row : AccountId} (different : row ≠ id)
    (member : unit ∈ (memory.join unit id).queues row) :
    unit ∈ memory.queues row := by
  rwa [queues_join, if_neg fun joined => different joined.1] at member

/-- A unit that gives up waiting for a row stands nowhere without seeing an account. -/
theorem leave (footed : Footed memory unit missed unseen?)
    (within : ∀ row, unseen? = some row → row = id) :
    Footed (memory.leave unit id) unit missed none := by
  refine footed.besides (Act.leave id).acts within (fun row different member => ?_) fun member =>
    absurd member (not_mem_queues_leave memory unit id)
  rwa [queues_leave, if_neg different] at member

theorem withdraw {request : Request} {progress : Progress} {world : World Memory}
    (footed : Footed world.store unit missed (request.awaited? progress)) :
    Footed (Memory.withdraw unit request progress world).store unit missed none := by
  rw [withdraw_eq]
  cases awaited : request.awaited? progress with
  | none =>
      rw [awaited] at footed
      exact footed
  | some row =>
      rw [awaited] at footed
      exact footed.leave fun _ same => (Option.some.inj same).symm

/-!
## Requests for rows
-/

theorem join (footed : Footed memory unit missed unseen?)
    (within : ∀ row, unseen? = some row → row = id) :
    Footed (memory.join unit id) unit missed (some id) :=
  footed.besides (Act.join id).acts within (fun _ different => mem_join different)
    fun _ => .inr (.inr rfl)

theorem locking {result : Poll Progress (Except StoreError (Option Account))} (deadline : Deadline)
    (footed : Footed memory unit missed unseen?) (within : ∀ row, unseen? = some row → row = id)
    (locking : Locking unit id memory result after) :
    Footed after unit missed (Request.unseen? (.lock id deadline) result) := by
  have joined := footed.join within
  cases locking with
  | waits deadline free => exact joined
  | timesOut detail free => exact joined.leave fun _ same => (Option.some.inj same).symm
  | locks held seen =>
      exact footed.besides (Act.join id).acts within (fun _ different => mem_join different)
        fun _ => .inl (by rw [seen]; rfl)
  | misses held unseen => exact joined.leave fun _ same => (Option.some.inj same).symm

theorem taking {balance : Money} {result : Poll Progress (Except StoreError Unit)}
    (footed : Footed memory unit missed unseen?) (within : ∀ row, unseen? = some row → row = id)
    (taking : Taking unit id balance memory result after) :
    Footed after unit missed (Request.unseen? (.setBalance id balance) result) := by
  have joined := footed.join within
  cases taking with
  | waits free => exact joined
  | misses detail held unseen => exact joined
  | sets held seen =>
      have acts : Acts unit memory ((memory.join unit id).setBalance unit id balance) :=
        (Act.join id).acts.tail (.setBalance id balance held seen)
      refine footed.besides acts within (fun _ different => mem_join different) fun _ => .inl ?_
      rwa [view_setBalance, Option.isSome_map]

/-- Whatever a unit asks, it sees an account where it stands, or it waits there, or it has just been
told that there is none. -/
theorem tryAsk {request : Request} {progress : Progress} {world : World Memory}
    (footed : Footed world.store unit missed (request.awaited? progress)) :
    Footed (Memory.tryAsk unit request progress world).2.store unit missed
      (request.unseen? (Memory.tryAsk unit request progress world).1) := by
  have rowless : request.row? = none →
      ∀ next?, Footed (Memory.tryAsk unit request progress world).2.store unit missed next? := by
    intro rowless
    have unawaited : request.awaited? progress = none := by
      cases progress with
      | fresh => rfl
      | sleeping wakeAt => rfl
      | queued deadline => exact rowless
    rw [unawaited] at footed
    exact footed.acts (tryAsk_acts unit request progress world) (queues_tryAsk rowless)
  cases request with
  | lock id deadline =>
      exact footed.locking deadline (row_of_awaited rfl) (tryLock_locking unit id deadline world)
  | setBalance id balance =>
      have balancing := trySetBalance_balancing unit id balance progress world
      change Footed (trySetBalance unit id balance progress world).2.store unit missed
        (Request.unseen? (.setBalance id balance) (trySetBalance unit id balance progress world).1)
      generalize (trySetBalance unit id balance progress world).1 = result,
        (trySetBalance unit id balance progress world).2.store = left at balancing
      cases balancing with
      | stops unawaited rearmed unmissed =>
          rw [unawaited] at footed
          exact footed.acts (rearmed.acts unit) rearmed.queues _
      | takes rearmed taking => exact (footed.rearmed rearmed).taking (row_of_awaited rfl) taking
  | find id => exact rowless rfl _
  | findName username => exact rowless rfl _
  | insert registration => exact rowless rfl _
  | append draft => exact rowless rfl _
  | list id => exact rowless rfl _

end Footed

/-!
## Refusals
-/

/-- A unit that is told that a row is missing has taken the row, and keeps it. -/
theorem held_of_missed {request : Request} {progress : Progress} {world left : World Memory}
    {reply : Except StoreError request.Reply}
    (tried : tryAsk unit request progress world = (.ready reply, left))
    (missed : request.missed? reply = some id) :
    left.store.holds unit id = true := by
  cases request with
  | setBalance row balance =>
      have balancing := trySetBalance_balancing unit row balance progress world
      rw [show trySetBalance unit row balance progress world = (.ready reply, left) from tried]
        at balancing
      generalize left.store = after at balancing
      cases balancing with
      | stops unawaited rearmed unmissed => cases missed.symm.trans unmissed
      | takes rearmed taking =>
          cases taking with
          | misses detail held unseen =>
              cases missed
              exact held
          | sets held seen => cases missed
  | lock row deadline => cases missed
  | find row => cases missed
  | findName username => cases missed
  | insert registration => cases missed
  | append draft => cases missed
  | list row => cases missed

end Memory

end Passbook
