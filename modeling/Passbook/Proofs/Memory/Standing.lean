import Passbook.Proofs.Memory.Published
import Passbook.Proofs.Memory.Rows

/-!
Where a unit of work stands in the queues for rows. It stands in one queue at most: at the head of
that of the row that it has got, or anywhere in that of the row that it waits for.
-/

set_option autoImplicit false

namespace Passbook.Memory

variable {memory after : Memory} {unit other : UnitId} {id row : AccountId}

/-- Whether a unit stands in the queue of the row that it has got, or else of the row that it was
told to wait for, and in no other. -/
structure Stands (memory : Memory) (unit : UnitId) (got? awaited? : Option AccountId) : Prop where
  queued : ∀ row, unit ∈ memory.queues row ↔ got? = some row ∨ awaited? = some row
  held : ∀ row, got? = some row → memory.holds unit row = true
  single : got? = none ∨ awaited? = none

/-- Where a unit stands that has not got a row, asks for one, and has this result. -/
def Served (memory : Memory) (unit : UnitId) (id : AccountId) :
    Poll Progress (Except StoreError (Option Account)) → Prop
  | .waiting _ => Stands memory unit none (some id)
  | .ready (.ok (some _)) => Stands memory unit (some id) none
  | .ready (.ok none) => Stands memory unit none none
  | .ready (.error _) => Stands memory unit none none

/-!
## Queues
-/

theorem Act.mem_queues_iff (act : Act unit memory after) (different : other ≠ unit) :
    other ∈ after.queues row ↔ other ∈ memory.queues row := by
  refine ⟨act.mem_queues different, fun member => ?_⟩
  cases act with
  | join id =>
      rw [queues_join]
      split
      · next joined => exact List.mem_append_left _ (joined.1 ▸ member)
      · exact member
  | leave id =>
      rw [queues_leave]
      split
      · next same => exact List.mem_filter.mpr ⟨same ▸ member, by simpa using different⟩
      · exact member
  | rearm faults delays => exact member
  | create registration free => exact member
  | setBalance id balance held seen => exact member
  | append draft time seen => exact member

theorem Acts.mem_queues_iff (acts : Acts unit memory after) (different : other ≠ unit) :
    other ∈ after.queues row ↔ other ∈ memory.queues row := by
  induction acts with
  | refl => exact .rfl
  | tail _ act same => exact (act.mem_queues_iff different).trans same

theorem mem_queues_discard (different : other ≠ unit) :
    other ∈ (memory.discard unit).queues row ↔ other ∈ memory.queues row := by
  simp [discard, different]

/-- A request that needs no row leaves all queues as they are. -/
theorem queues_tryAsk {request : Request} {progress : Progress} {world : World Memory}
    (rowless : request.row? = none) :
    (tryAsk unit request progress world).2.store.queues = world.store.queues := by
  cases request with
  | lock id deadline => cases rowless
  | setBalance id balance => cases rowless
  | find id => rfl
  | findName username => rfl
  | list id => rfl
  | insert registration =>
      have inserting := tryInsert_inserting unit registration world
      change (tryInsert unit registration world).2.store.queues = world.store.queues
      generalize (tryInsert unit registration world).1 = result,
        (tryInsert unit registration world).2.store = left at inserting
      cases inserting with
      | refuses error => rfl
      | inserts free => rfl
  | append draft =>
      have appending := tryAppend_appending unit draft progress world
      change (tryAppend unit draft progress world).2.store.queues = world.store.queues
      generalize (tryAppend unit draft progress world).1 = result,
        (tryAppend unit draft progress world).2.store = left at appending
      cases appending with
      | sleeps progress rearmed => exact rearmed.queues
      | fails error noTimeout rearmed => exact rearmed.queues
      | appends time rearmed seen => exact rearmed.queues

/-- A unit that holds a row already does not queue for it again when it sets a balance there. -/
theorem Setting.queues {balance : Money} {result : Poll Progress (Except StoreError Unit)}
    (setting : Setting unit id balance memory result after) (held : memory.holds unit id = true) :
    after.queues = memory.queues := by
  have joined : ∀ {before : Memory}, Rearmed memory before →
      (before.join unit id).queues = memory.queues := by
    intro before rearmed
    rw [join_of_holds (rearmed.holds.trans held), rearmed.queues]
  cases setting with
  | sleeps wakeAt rearmed => exact rearmed.queues
  | waits rearmed free => exact joined rearmed
  | fails error noTimeout rearmed => exact rearmed.queues
  | misses error noTimeout rearmed => exact joined rearmed
  | sets rearmed held seen => exact joined rearmed

/-- Nor does it wait for the row. -/
theorem Setting.progress {balance : Money} {next : Progress}
    (setting : Setting unit id balance memory (.waiting next) after)
    (held : memory.holds unit id = true) :
    (Request.setBalance id balance).awaited? next = none := by
  cases setting with
  | sleeps wakeAt rearmed => rfl
  | waits rearmed free =>
      rw [holds_join (rearmed.holds.trans held)] at free
      cases free

theorem Appending.queues {draft : EntryDraft} {result : Poll Progress (Except StoreError Entry)}
    (appending : Appending unit draft memory result after) : after.queues = memory.queues := by
  cases appending with
  | sleeps progress rearmed => exact rearmed.queues
  | fails error noTimeout rearmed => exact rearmed.queues
  | appends time rearmed seen => exact rearmed.queues

/-!
## Standing in a queue
-/

namespace Stands

variable {got? awaited? : Option AccountId}

theorem congr (stands : Stands memory unit got? awaited?) (queues : after.queues = memory.queues) :
    Stands after unit got? awaited? where
  queued row := by
    rw [queues]
    exact stands.queued row
  held row got := by
    rw [holds, queues]
    exact stands.held row got
  single := stands.single

theorem rearmed (stands : Stands memory unit got? awaited?) (rearmed : Rearmed memory after) :
    Stands after unit got? awaited? :=
  stands.congr rearmed.queues

theorem nowhere (absent : ∀ row, unit ∉ memory.queues row) : Stands memory unit none none where
  queued row := by simpa using absent row
  held row got := by cases got
  single := .inl rfl

/-- A unit that has just been opened stands nowhere. -/
theorem opening (opening : Opening memory (.ready (.ok unit)) after) (sound : Sound memory) :
    Stands after unit none none := by
  cases opening with
  | opens rearmed =>
      refine nowhere fun row member => ?_
      exact (sound.rearmed rearmed).queued row _ member (sound.rearmed rearmed).next_units

theorem locking {result : Poll Progress (Except StoreError (Option Account))}
    (stands : Stands memory unit none awaited?) (within : ∀ row, awaited? = some row → row = id)
    (locking : Locking unit id memory result after) :
    Served after unit id result := by
  have joined : ∀ row, unit ∈ (memory.join unit id).queues row ↔ id = row := by
    intro row
    have before : unit ∈ memory.queues row → id = row := fun member =>
      (within row (((stands.queued row).mp member).resolve_left nofun)).symm
    rw [queues_join]
    split
    · next joins => simp [joins.1]
    · next stays =>
        refine ⟨before, fun same => ?_⟩
        subst same
        simpa using stays
  have left : ∀ row, unit ∉ ((memory.join unit id).leave unit id).queues row := by
    intro row member
    rw [queues_leave] at member
    split at member
    · simp at member
    · next other => exact other ((joined row).mp member).symm
  cases locking with
  | waits deadline free => exact ⟨fun row => by simp [joined], nofun, .inl rfl⟩
  | timesOut detail free => exact nowhere left
  | locks held seen =>
      refine ⟨fun row => by simp [joined], fun row got => ?_, .inr rfl⟩
      cases got
      exact held
  | misses held unseen => exact nowhere left

theorem queue_unique (stands : Stands memory unit got? awaited?) (one : unit ∈ memory.queues id)
    (two : unit ∈ memory.queues row) :
    id = row := by
  have first := (stands.queued id).mp one
  have second := (stands.queued row).mp two
  rcases stands.single with rfl | rfl <;> simp_all

end Stands

end Passbook.Memory
