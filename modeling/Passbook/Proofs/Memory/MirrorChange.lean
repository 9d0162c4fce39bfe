import Passbook.Proofs.Memory.Mirror

/-!
Changes to two ledgers that agree about an account. They still agree when corresponding units do the
same about the account, and when a unit of the whole ledger is busy elsewhere.
-/

set_option autoImplicit false

namespace Passbook.Memory

variable {pairing : Pairing} {row id : AccountId} {whole part : Memory} {unit twin : UnitId}

/-!
## Queues
-/

theorem join_eq (memory : Memory) (unit : UnitId) (id : AccountId) :
    memory.join unit id = { memory with queues := (memory.join unit id).queues } := by
  unfold Memory.join
  split <;> rfl

theorem Mirrors.join (mirrors : Mirrors pairing row whole part) (paired : pairing.units unit twin) :
    Mirrors pairing row (whole.join unit row) (part.join twin row) := by
  have member : unit ∈ whole.queues row ↔ twin ∈ part.queues row :=
    List.rel_mem pairing.unique paired mirrors.queue
  rw [join_eq whole, join_eq part]
  refine { mirrors with queue := ?_ }
  simp only [queues_join, true_and, member]
  split
  · exact List.rel_append mirrors.queue (.cons paired .nil)
  · exact mirrors.queue

/-- The queue without a unit. -/
theorem Mirrors.queue_without (mirrors : Mirrors pairing row whole part)
    (paired : pairing.units unit twin) :
    List.Forall₂ pairing.units ((whole.queues row).filter (· != unit))
      ((part.queues row).filter (· != twin)) := by
  refine List.rel_filter (fun one other same => ?_) mirrors.queue
  simp only [bne_iff_ne, ne_eq]
  exact not_congr (Relator.rel_eq pairing.unique same paired)

theorem Mirrors.leave (mirrors : Mirrors pairing row whole part)
    (paired : pairing.units unit twin) :
    Mirrors pairing row (whole.leave unit row) (part.leave twin row) :=
  { mirrors with
    queue := by
      rw [queues_leave, queues_leave, if_pos rfl, if_pos rfl]
      exact mirrors.queue_without paired }

/-- What another unit does in the queue of another account is not seen. -/
theorem Mirrors.join_other (mirrors : Mirrors pairing row whole part) (different : id ≠ row) :
    Mirrors pairing row (whole.join unit id) part := by
  rw [join_eq whole]
  refine { mirrors with queue := ?_ }
  simp only [queues_join, different.symm, false_and, if_false]
  exact mirrors.queue

theorem Mirrors.leave_other (mirrors : Mirrors pairing row whole part) (different : id ≠ row) :
    Mirrors pairing row (whole.leave unit id) part :=
  { mirrors with
    queue := by
      rw [queues_leave, if_neg different.symm]
      exact mirrors.queue }

/-!
## What a unit stages
-/

theorem Mirrors.stage {one other : Staged} (mirrors : Mirrors pairing row whole part)
    (paired : pairing.units unit twin) (same : Staged.Same pairing.entries one other) :
    Mirrors pairing row (whole.stage unit one) (part.stage twin other) :=
  { mirrors with
    units := by
      intro next another too
      by_cases mine : next = unit
      · subst mine
        cases pairing.unique.2 paired too
        rw [units_stage_same, units_stage_same]
        exact .some same
      · have different := Pairing.twins_ne too paired mine
        rw [units_stage_other _ _ mine, units_stage_other _ _ different]
        exact mirrors.units too
    others := by
      intro next alone
      have different := Pairing.lone_ne alone paired
      rw [staged_congr (units_stage_other whole one different)]
      exact mirrors.others next alone }

theorem Mirrors.setBalance (mirrors : Mirrors pairing row whole part)
    (paired : pairing.units unit twin) (id : AccountId) (balance : Money) :
    Mirrors pairing row (whole.setBalance unit id balance) (part.setBalance twin id balance) := by
  have same := mirrors.staged paired
  refine mirrors.stage paired { same with balances := ?_ }
  rw [same.balances]

theorem Mirrors.create (mirrors : Mirrors pairing row whole part) (paired : pairing.units unit twin)
    (registration : Registration) :
    (whole.create unit registration).1 = (part.create twin registration).1 ∧
      Mirrors pairing row (whole.create unit registration).2 (part.create twin registration).2 := by
  have same := mirrors.staged paired
  have made : (whole.create unit registration).1 = (part.create twin registration).1 := by
    simp only [Memory.create, mirrors.lastAccount]
  have created : Staged.Same pairing.entries
      { whole.staged unit with
        created := (whole.staged unit).created ++ [(whole.create unit registration).1] }
      { part.staged twin with
        created := (part.staged twin).created ++ [(part.create twin registration).1] } :=
    { same with created := by rw [same.created, made] }
  have staged := mirrors.stage paired created
  exact ⟨made, { staged with lastAccount := congrArg (· + 1) mirrors.lastAccount }⟩

/-- More pairs of entries than there were. -/
theorem Mirrors.renumber {entries : Renumbering} (mirrors : Mirrors pairing row whole part)
    (more : ∀ {one other}, pairing.entries.renames one other → entries.renames one other)
    (drawn : ∀ {one other}, entries.renames one other → one.value ≤ whole.lastEntry ∧
      other.value ≤ part.lastEntry) :
    Mirrors { pairing with entries } row whole part :=
  have wider : ∀ one other, pairing.entries.SameEntry one other → entries.SameEntry one other :=
    fun _ _ same => ⟨more same.ids, same.rest⟩
  { mirrors with
    entries := mirrors.entries.imp wider
    units := by
      intro unit twin paired
      have same := mirrors.units paired
      generalize whole.units unit = one, part.units twin = other at same
      cases same with
      | some same => exact .some { same with entries := same.entries.imp wider }
      | none => exact .none
    drawnEntries := drawn }

theorem Mirrors.append (mirrors : Mirrors pairing row whole part) (paired : pairing.units unit twin)
    (draft : EntryDraft) (time : Time.Timestamp) (drawnUnits : Nat) :
    ∃ later, pairing.Grows later drawnUnits ∧
      later.entries.SameEntry (whole.append unit draft time).1 (part.append twin draft time).1 ∧
      Mirrors later row (whole.append unit draft time).2 (part.append twin draft time).2 := by
  -- Both counters are ahead of all entries that correspond to each other, so the order stays the
  -- same.
  let later := pairing.withEntry ⟨whole.lastEntry + 1⟩ ⟨part.lastEntry + 1⟩ fun renamed =>
    ⟨Int.lt_add_one_of_le (mirrors.drawnEntries renamed).1,
      Int.lt_add_one_of_le (mirrors.drawnEntries renamed).2⟩
  have drawn : ∀ {one other}, later.entries.renames one other →
      one.value ≤ (whole.lastEntry + 1 : Nat) ∧ other.value ≤ (part.lastEntry + 1 : Nat) := by
    rintro one other (renamed | ⟨rfl, rfl⟩)
    · have bounds := mirrors.drawnEntries renamed
      omega
    · exact ⟨Int.le_refl _, Int.le_refl _⟩
  have counted : Mirrors pairing row { whole with lastEntry := whole.lastEntry + 1 }
      { part with lastEntry := part.lastEntry + 1 } :=
    { mirrors with drawnEntries := fun renamed => drawn (.inl renamed) }
  have renumbered : Mirrors later row _ _ := counted.renumber .inl drawn
  have same := renumbered.staged paired
  have entry : later.entries.SameEntry (whole.append unit draft time).1
      (part.append twin draft time).1 := ⟨.inr ⟨rfl, rfl⟩, rfl⟩
  exact ⟨later, ⟨id, .inl, .inl⟩, entry,
    renumbered.stage paired
      { same with entries := List.rel_append same.entries (.cons entry .nil) }⟩

/-!
## Units that begin and end
-/

theorem Mirrors.openUnit (mirrors : Mirrors pairing row whole part) :
    ∃ later, pairing.Grows later whole.lastUnit ∧ later.units whole.openUnit.1 part.openUnit.1 ∧
      Mirrors later row whole.openUnit.2 part.openUnit.2 := by
  have fresh : ∀ {one other}, pairing.units one other → one ≠ ⟨whole.lastUnit + 1⟩ ∧
      other ≠ ⟨part.lastUnit + 1⟩ := by
    intro one other paired
    have bounds := mirrors.drawnUnits paired
    constructor <;> rintro rfl
    · exact Nat.not_succ_le_self _ bounds.1
    · exact Nat.not_succ_le_self _ bounds.2
  let later := pairing.withUnit ⟨whole.lastUnit + 1⟩ ⟨part.lastUnit + 1⟩ fresh
  refine ⟨later, ⟨.inl, ?_, id⟩, .inr ⟨rfl, rfl⟩,
    { mirrors with queue := ?_, units := ?_, others := ?_, drawnUnits := ?_ }⟩
  · rintro one other (paired | ⟨rfl, -⟩)
    · exact .inl paired
    · exact .inr (Nat.lt_succ_self _)
  · exact mirrors.queue.imp fun _ _ => .inl
  · rintro one other (paired | ⟨rfl, rfl⟩)
    · simp only [Memory.openUnit, assign_other _ _ (fresh paired).1,
        assign_other _ _ (fresh paired).2]
      exact mirrors.units paired
    · simp only [Memory.openUnit, assign_same]
      exact .some ⟨rfl, rfl, .nil⟩
  · intro one alone
    have different : one ≠ ⟨whole.lastUnit + 1⟩ :=
      fun same => alone ⟨part.lastUnit + 1⟩ (.inr ⟨same, rfl⟩)
    rw [staged_congr (assign_other _ _ different)]
    exact mirrors.others one fun other paired => alone other (.inl paired)
  · rintro one other (paired | ⟨rfl, rfl⟩)
    · have bounds := mirrors.drawnUnits paired
      exact ⟨Nat.le_succ_of_le bounds.1, Nat.le_succ_of_le bounds.2⟩
    · exact ⟨Nat.le_refl _, Nat.le_refl _⟩

theorem Mirrors.discard (mirrors : Mirrors pairing row whole part)
    (paired : pairing.units unit twin) :
    Mirrors pairing row (whole.discard unit) (part.discard twin) :=
  { mirrors with
    queue := mirrors.queue_without paired
    units := by
      intro next another too
      by_cases mine : next = unit
      · subst mine
        cases pairing.unique.2 paired too
        rw [units_discard_same, units_discard_same]
        exact .none
      · have different := Pairing.twins_ne too paired mine
        rw [units_discard_other _ mine, units_discard_other _ different]
        exact mirrors.units too
    others := by
      intro next alone
      have different := Pairing.lone_ne alone paired
      rw [staged_congr (units_discard_other whole different)]
      exact mirrors.others next alone }

theorem alike_overlay {one other : Staged} {account next : Account} (alike : account.Alike row next)
    (balances : one.balances row = other.balances row) :
    (one.overlay account).Alike row (other.overlay next) where
  ids := alike.ids
  usernames := alike.usernames
  hashes := alike.hashes
  balances same := by
    have mine : account.id = row := same
    simp only [Staged.overlay, mine, ← alike.ids, balances, alike.balances mine]

theorem Mirrors.publish (mirrors : Mirrors pairing row whole part)
    (paired : pairing.units unit twin) :
    Mirrors pairing row (whole.publish unit) (part.publish twin) := by
  have same := mirrors.staged paired
  have published : Mirrors pairing row
      { whole with
        accounts := (whole.accounts ++ (whole.staged unit).created).map (whole.staged unit).overlay
        entries := whole.entries ++ (whole.staged unit).entries }
      { part with
        accounts := (part.accounts ++ (part.staged twin).created).map (part.staged twin).overlay
        entries := part.entries ++ (part.staged twin).entries } :=
    { mirrors with
      accounts := by
        refine List.rel_map
          (fun account next alike => alike_overlay alike (congrFun same.balances row)) ?_
        refine List.rel_append mirrors.accounts ?_
        rw [same.created]
        exact List.forall₂_same.mpr fun account _ => ⟨rfl, rfl, rfl, fun _ => rfl⟩
      entries := mirrors.history paired }
  exact published.discard paired

/-!
## Units that are busy elsewhere
-/

theorem Mirrors.openUnit_other (mirrors : Mirrors pairing row whole part) :
    Mirrors pairing row whole.openUnit.2 part :=
  { mirrors with
    units := by
      intro one other paired
      have different : one ≠ ⟨whole.lastUnit + 1⟩ := by
        rintro rfl
        exact Nat.not_succ_le_self _ (mirrors.drawnUnits paired).1
      simp only [Memory.openUnit, assign_other _ _ different]
      exact mirrors.units paired
    others := by
      intro one alone
      by_cases new : one = ⟨whole.lastUnit + 1⟩
      · subst new
        rw [staged_of_units (assign_same _ _ _)]
        exact ⟨rfl, rfl, fun entry member => by cases member⟩
      · rw [staged_congr (assign_other _ _ new)]
        exact mirrors.others one alone
    drawnUnits :=
      fun paired =>
        ⟨Nat.le_succ_of_le (mirrors.drawnUnits paired).1, (mirrors.drawnUnits paired).2⟩ }

theorem Mirrors.stage_other {staged : Staged} (mirrors : Mirrors pairing row whole part)
    (alone : ∀ twin, ¬ pairing.units unit twin) (elsewhere : staged.Elsewhere row) :
    Mirrors pairing row (whole.stage unit staged) part :=
  { mirrors with
    units := by
      intro one other paired
      have different := (Pairing.lone_ne alone paired).symm
      rw [units_stage_other _ _ different]
      exact mirrors.units paired
    others := by
      intro one lonely
      by_cases same : one = unit
      · subst same
        rw [staged_stage]
        exact elsewhere
      · rw [staged_congr (units_stage_other _ _ same)]
        exact mirrors.others one lonely }

theorem Mirrors.setBalance_other (mirrors : Mirrors pairing row whole part)
    (alone : ∀ twin, ¬ pairing.units unit twin) (different : id ≠ row) (balance : Money) :
    Mirrors pairing row (whole.setBalance unit id balance) part := by
  have elsewhere := mirrors.others unit alone
  exact mirrors.stage_other alone
    { elsewhere with balances := (assign_other _ _ different.symm).trans elsewhere.balances }

theorem Mirrors.append_other {draft : EntryDraft} (mirrors : Mirrors pairing row whole part)
    (alone : ∀ twin, ¬ pairing.units unit twin) (different : draft.account ≠ some row)
    (time : Time.Timestamp) : Mirrors pairing row (whole.append unit draft time).2 part := by
  have elsewhere := mirrors.others unit alone
  have appended : Staged.Elsewhere row
      { whole.staged unit with
        entries := (whole.staged unit).entries ++ [(whole.append unit draft time).1] } := {
    elsewhere with
    entries := by
      intro entry member
      rcases List.mem_append.mp member with old | new
      · exact elsewhere.entries entry old
      · cases List.mem_singleton.mp new
        exact different }
  have staged := mirrors.stage_other alone appended
  exact { staged with
    drawnEntries := fun renamed =>
      ⟨Int.le_trans (mirrors.drawnEntries renamed).1 (Int.ofNat_le.mpr (Nat.le_succ _)),
        (mirrors.drawnEntries renamed).2⟩ }

theorem Mirrors.discard_other (mirrors : Mirrors pairing row whole part)
    (alone : ∀ twin, ¬ pairing.units unit twin) :
    Mirrors pairing row (whole.discard unit) part :=
  { mirrors with
    -- The unit is not even in the queue, where every unit has a twin.
    queue := by
      have absent : unit ∉ whole.queues row := by
        have queued : ∀ one ∈ whole.queues row, ∃ twin, pairing.units one twin :=
          ((List.forall₂_and_left _ _).mp
            (mirrors.queue.imp fun _ twin paired => ⟨⟨twin, paired⟩, paired⟩)).1
        exact fun member => (queued unit member).elim alone
      have same : (whole.queues row).filter (· != unit) = whole.queues row :=
        List.filter_eq_self.mpr fun one member => bne_iff_ne.mpr fun mine => absent (mine ▸ member)
      simp only [Memory.discard, same]
      exact mirrors.queue
    units := by
      intro one other paired
      have different := (Pairing.lone_ne alone paired).symm
      rw [units_discard_other _ different]
      exact mirrors.units paired
    others := by
      intro one lonely
      by_cases same : one = unit
      · subst same
        have gone : (whole.discard one).staged one = .empty := by
          rw [Memory.staged, units_discard_same]
          rfl
        rw [gone]
        exact ⟨rfl, rfl, fun entry member => by cases member⟩
      · rw [staged_congr (units_discard_other _ same)]
        exact mirrors.others one lonely }

theorem Mirrors.publish_other (mirrors : Mirrors pairing row whole part)
    (alone : ∀ twin, ¬ pairing.units unit twin) :
    Mirrors pairing row (whole.publish unit) part := by
  have elsewhere := mirrors.others unit alone
  have published : Mirrors pairing row
      { whole with
        accounts := (whole.accounts ++ (whole.staged unit).created).map (whole.staged unit).overlay
        entries := whole.entries ++ (whole.staged unit).entries } part :=
    { mirrors with
      accounts := by
        rw [elsewhere.created, List.append_nil]
        -- The account itself is overlaid with nothing, as it is in the other ledger, where nothing
        -- happens.
        refine List.forall₂_map_left_iff.mpr (mirrors.accounts.imp fun account next alike => ?_)
        have plain : next = Staged.empty.overlay next := rfl
        rw [plain]
        exact alike_overlay alike elsewhere.balances
      entries := by
        have unseen : ((whole.staged unit).entries.filter fun entry => entry.account == some row) =
            [] :=
          List.filter_eq_nil_iff.mpr
            fun entry member => by simpa using elsewhere.entries entry member
        rw [Memory.entriesOf, List.filter_append, unseen, List.append_nil]
        exact mirrors.entries }
  exact published.discard_other alone

end Passbook.Memory
