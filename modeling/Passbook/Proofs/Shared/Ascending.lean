import Passbook.Proofs.Memory.View
import Passbook.Proofs.Shared.Mild

/-!
The order of entries. An entry is numbered when it is appended and listed when it is committed. In
between its unit holds the row of the account, so that the entries of one account are listed in the
order of their numbers, whatever happens to other accounts.
-/

set_option autoImplicit false

namespace Passbook

namespace Memory

variable {memory after : Memory} {unit other : UnitId} {id : AccountId}

/-- Whether every unit sees the entries of an account in the order of their numbers. -/
def AscendingAt (memory : Memory) (id : AccountId) : Prop :=
  ∀ unit, (memory.history unit id).Pairwise fun one two => one.id.value < two.id.value

/-- Whether every unit sees the entries of each account in the order of their numbers. -/
def Ascending (memory : Memory) : Prop :=
  ∀ unit id, (memory.history unit id).Pairwise fun one two => one.id.value < two.id.value

/-- Whether a unit has staged entries of an account. -/
def Records (memory : Memory) (unit : UnitId) (id : AccountId) : Prop :=
  ∃ entry ∈ (memory.staged unit).entries, entry.account = some id

/-- Whether no two units have staged entries of an account. -/
def Unshared (memory : Memory) (id : AccountId) : Prop :=
  ∀ one other, memory.Records one id → memory.Records other id → one = other

theorem Records.of_units (records : after.Records unit id)
    (same : after.units unit = memory.units unit) :
    memory.Records unit id := by
  rwa [Records, ← staged_congr same]

theorem Records.isOpen (records : memory.Records unit id) : memory.units unit ≠ none := by
  intro closed
  obtain ⟨entry, member, -⟩ := records
  rw [staged, closed] at member
  cases member

theorem unrecorded_iff :
    ((memory.staged unit).entries.filter fun entry => entry.account == some id) = [] ↔
    ¬memory.Records unit id := by
  simp [Records]

theorem Unshared.rearmed (unshared : Unshared memory id) (rearmed : Rearmed memory after) :
    Unshared after id :=
  fun one other first second =>
    unshared one other (first.of_units (congrFun rearmed.units one))
      (second.of_units (congrFun rearmed.units other))

theorem ascendingAt_empty (id : AccountId) : AscendingAt empty id := fun _ => .nil

theorem AscendingAt.view (ascending : AscendingAt memory id)
    (same : ∀ unit, SameView memory unit after unit) : AscendingAt after id := by
  intro unit
  rw [(same unit).entries]
  exact ascending unit

theorem AscendingAt.rearmed (ascending : AscendingAt memory id) (rearmed : Rearmed memory after) :
    AscendingAt after id :=
  ascending.view fun unit => sameView_of_units rearmed.tables (congrFun rearmed.units unit)

theorem AscendingAt.openUnit (ascending : AscendingAt memory id) (sound : Sound memory) :
    AscendingAt memory.openUnit.2 id :=
  ascending.view fun unit => sameView_of_staged rfl (staged_openUnit sound.next_units unit)

theorem Sound.history_le (sound : Sound memory) (unit : UnitId) (id : AccountId) :
    ∀ entry ∈ memory.history unit id, entry.id.value ≤ memory.lastEntry := by
  intro entry member
  rcases List.mem_append.mp (List.mem_filter.mp member).1 with committed | staged
  · exact (sound.entries.bounds none _ (List.mem_map_of_mem committed)).2
  · exact (sound.entries.bounds (some unit) _ (List.mem_map_of_mem staged)).2

/-- What a unit does before it ends adds at most one entry to what it sees, with the next number. -/
theorem Act.history (act : Act unit memory after) (id : AccountId) :
    after.history unit id = memory.history unit id ∨
      ∃ entry : Entry, entry.id.value = (memory.lastEntry : Int) + 1 ∧
        after.history unit id = memory.history unit id ++ [entry] := by
  have same : (after.staged unit).entries = (memory.staged unit).entries →
      after.history unit id = memory.history unit id := by
    intro entries
    rw [Memory.history, Memory.history, act.unpublished.2, entries]
  cases act with
  | rearm faults delays => exact .inl (same rfl)
  | join row => exact .inl (same (by rw [staged, units_join]; rfl))
  | leave row => exact .inl (same rfl)
  | create registration free => exact .inl (same (by simp [Memory.create, staged, stage]))
  | setBalance row balance held seen => exact .inl (same (by rw [staged_setBalance]))
  | append draft time seen =>
      have staged : ((memory.append unit draft time).2.staged unit).entries =
          (memory.staged unit).entries ++ [draft.entry ⟨memory.lastEntry + 1⟩ time] :=
        congrArg Staged.entries (staged_append memory unit draft time)
      have entries : (memory.append unit draft time).2.entries = memory.entries := rfl
      by_cases mine : draft.account = some id
      · refine .inr ⟨draft.entry ⟨memory.lastEntry + 1⟩ time, rfl, ?_⟩
        rw [Memory.history, staged, entries, ← List.append_assoc, List.filter_append]
        simp [Memory.history, EntryDraft.entry, mine]
      · refine .inl ?_
        rw [Memory.history, staged, entries, ← List.append_assoc, List.filter_append]
        simp [Memory.history, EntryDraft.entry, mine]

theorem AscendingAt.act (ascending : AscendingAt memory id) (sound : Sound memory)
    (act : Act unit memory after) :
    AscendingAt after id := by
  intro other
  by_cases mine : other = unit
  · subst other
    rcases act.history id with same | ⟨entry, number, grown⟩
    · rw [same]
      exact ascending unit
    · rw [grown]
      refine List.pairwise_append.mpr ⟨ascending unit, List.pairwise_singleton _ _,
        fun old member new isNew => ?_⟩
      have bound := sound.history_le unit id old member
      rw [List.mem_singleton.mp isNew, number]
      omega
  · rw [(sameView_of_units act.acts.tables (act.spares.units other mine)).entries]
    exact ascending other

theorem AscendingAt.acts (ascending : AscendingAt memory id) (sound : Sound memory)
    (isOpen : memory.units unit ≠ none) (acts : Acts unit memory after) : AscendingAt after id := by
  induction acts with
  | refl => exact ascending
  | tail earlier act ih => exact ih.act (sound.acts isOpen earlier) act

theorem history_eq (memory : Memory) (unit : UnitId) (id : AccountId) : memory.history unit id =
    memory.entriesOf id ++ (memory.staged unit).entries.filter fun entry =>
      entry.account == some id :=
  List.filter_append ..

theorem history_of_closed (closed : memory.units unit = none) (id : AccountId) :
    memory.history unit id = memory.entriesOf id := by
  rw [history_eq, staged, closed]
  exact List.append_nil _

theorem AscendingAt.committed (ascending : AscendingAt memory id) :
    (memory.entriesOf id).Pairwise fun one two => one.id.value < two.id.value := by
  have seen := ascending ⟨0⟩
  rw [history_eq] at seen
  exact (List.pairwise_append.mp seen).1

theorem Ascending.committed (ascending : Ascending memory) (id : AccountId) :
    (memory.entriesOf id).Pairwise fun one two => one.id.value < two.id.value :=
  AscendingAt.committed fun unit => ascending unit id

theorem AscendingAt.discard (ascending : AscendingAt memory id) (unit : UnitId) :
    AscendingAt (memory.discard unit) id := by
  intro other
  by_cases mine : other = unit
  · subst other
    rw [history_of_closed (units_discard_same memory unit)]
    exact ascending.committed
  · have same : SameView memory other (memory.discard unit) other :=
      sameView_of_units rfl (units_discard_other memory mine)
    rw [same.entries]
    exact ascending other

/-- The end of a unit adds no entries to an account for which another unit has staged some. -/
theorem AscendingAt.publish (ascending : AscendingAt memory id) (unshared : Unshared memory id)
    (unit : UnitId) :
    AscendingAt (memory.publish unit) id := by
  intro other
  have entries : (memory.publish unit).entriesOf id = memory.history unit id := rfl
  by_cases mine : other = unit
  · subst other
    have closed : (memory.publish unit).units unit = none := units_discard_same _ unit
    rw [history_of_closed closed, entries]
    exact ascending unit
  · have staged : (memory.publish unit).staged other = memory.staged other :=
      staged_congr ((spares_publish memory unit).units other mine)
    rw [history_eq, entries, staged]
    by_cases records : memory.Records other id
    · have vacant : ¬memory.Records unit id :=
        fun another => mine (unshared other unit records another)
      rw [history_eq, unrecorded_iff.mpr vacant, List.append_nil, ← history_eq]
      exact ascending other
    · rw [unrecorded_iff.mpr records, List.append_nil]
      exact ascending unit

end Memory

namespace Shared

open Memory (Progress Rearmed Sound Ascending AscendingAt Records Unshared)

variable {memory after : Memory} {state next : State} {one two : Option UnitId} {row : AccountId}

theorem Effect.ascendingAt (effect : Effect memory one two after)
    (ascending : AscendingAt memory row) (sound : Sound memory)
    (isOpen : ∀ unit, one = some unit → memory.units unit ≠ none) (unshared : Unshared memory row) :
    AscendingAt after row := by
  cases effect with
  | idles rearmed => exact ascending.rearmed rearmed
  | opens rearmed => exact (ascending.rearmed rearmed).openUnit (sound.rearmed rearmed)
  | acts acts => exact ascending.acts sound (isOpen _ rfl) acts
  | drops acts => exact (ascending.acts sound (isOpen _ rfl) acts).discard _
  | publishes rearmed free => exact (ascending.rearmed rearmed).publish (unshared.rearmed rearmed) _

theorem ascendingAt_advance (ascending : AscendingAt state.memory row) (owned : state.Owned)
    (unshared : Unshared state.memory row) (advance : State.Advance state next) :
    AscendingAt next.memory row := by
  cases advance with
  | quiet rearmed clients count => exact ascending.rearmed rearmed
  | arrives fresh => exact ascending
  | steps known effect clients count =>
      exact effect.ascendingAt ascending owned.sound (owned.isOpen_of_known known) unshared

/-- No two units have staged entries of an account if every client holds the row for which its unit
has staged some. -/
theorem unshared_of_clients (owned : state.Owned)
    (held : ∀ id client unit, state.clients id = some client → client.unit? = some unit →
      state.memory.Records unit row → state.memory.holds unit row = true) :
    Unshared state.memory row := by
  have holds : ∀ unit, state.memory.Records unit row → state.memory.holds unit row = true := by
    intro unit records
    obtain ⟨owner, has⟩ := owned.owner unit records.isOpen
    obtain ⟨client, known, unit?⟩ := Option.bind_eq_some_iff.mp has
    exact held owner client unit known unit? records
  exact fun one other first second => Memory.holds_unique (holds one first) (holds other second)

/-- A posting holds the row for which it has staged an entry. -/
theorem holds_of_fits {posting : Posting} {phase : Posting.Phase UnitId Progress} {unit : UnitId}
    (fits : phase.Fits posting memory) (has : phase.unit? = some unit)
    (records : memory.Records unit row) :
    memory.holds unit row = true := by
  obtain ⟨entry, member, mine⟩ := records
  have empty : memory.units unit ≠ some .empty := by
    intro known
    rw [Memory.staged_of_units known] at member
    cases member
  have unrecorded : ∀ balance, memory.units unit ≠ some (posting.staged balance []) := by
    intro balance known
    rw [Memory.staged_of_units known] at member
    cases member
  cases phase with
  | opening progress => cases has
  | locking other progress =>
      cases has
      exact absurd fits empty
  | writing other balance progress =>
      cases has
      exact absurd fits.1 empty
  | appending other balance progress =>
      cases has
      exact absurd fits.1 (unrecorded balance)
  | committing other receipt progress =>
      cases has
      obtain ⟨⟨recorded, records, known⟩, secured⟩ := fits
      rw [Memory.staged_of_units known] at member
      have account := records.account
      rw [← List.mem_singleton.mp member, mine] at account
      rw [Option.some.inj account]
      exact secured.held
  | undoing other cause progress =>
      cases has
      rcases fits with ⟨missed, known⟩ | ⟨held, known | ⟨balance, known⟩⟩
      · exact absurd known empty
      · exact absurd known empty
      · exact absurd known (unrecorded balance)

theorem Client.Mild.holds {client : Client} {unit : UnitId} (mild : client.Mild memory)
    (has : client.unit? = some unit) (records : memory.Records unit row) :
    memory.holds unit row = true := by
  have still : memory.Still unit → memory.holds unit row = true := by
    intro still
    obtain ⟨entry, member, -⟩ := records
    rw [still.staged.entries] at member
    cases member
  cases client using Client.running_or_over with
  | posting wanted phase => exact holds_of_fits mild.1 has records
  | inquiry asked phase => exact still (mild.2 unit has)
  | hand task => exact still (mild.2 unit has)
  | settled client isOver => cases (Client.unit?_of_isOver isOver).symm.trans has

theorem ascending_run {actions : List Action}
    (asked : Asks (fun request => request.isMild = true) actions) :
    Ascending (run actions).memory := by
  have everywhere : ∀ row, AscendingAt (run actions).memory row :=
    mild_onwards (fun state => ∀ row, AscendingAt state.memory row) asked Memory.ascendingAt_empty
      fun state after owned mild ascending transition row =>
        have unshared : Unshared state.memory row :=
          unshared_of_clients owned fun id client unit known has records =>
            (mild id client known).holds has records
        ascendingAt_advance (ascending row) owned unshared transition.advance
  exact fun unit row => everywhere row unit

end Shared

end Passbook
