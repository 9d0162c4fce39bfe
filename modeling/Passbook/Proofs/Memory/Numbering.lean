import Passbook.Proofs.Memory.Change

/-!
Numbers that a counter has given out, kept by owners: the committed ledger is one owner, each unit
of work another. No number is given out twice, whatever happens to the unit that got it. Accounts
and entries are numbered in the same way.
-/

set_option autoImplicit false

namespace Passbook.Memory

/-- Which numbers each owner keeps. The committed ledger is the owner without a unit. -/
abbrev Holdings := Option UnitId → List Int

/-- Numbers given out by a counter that stands at `last`. -/
structure Numbering (last : Nat) (holdings : Holdings) : Prop where
  nodup : ∀ owner, (holdings owner).Nodup
  bounds : ∀ owner, ∀ number ∈ holdings owner, 0 < number ∧ number ≤ last
  apart : ∀ owner other number, number ∈ holdings owner → number ∈ holdings other → owner = other

namespace Numbering

variable {last : Nat} {holdings : Holdings} {owner heir : Option UnitId}

theorem empty : Numbering 0 fun _ => [] :=
  ⟨fun _ => .nil, fun _ _ member => by simp at member, fun _ _ _ member => by simp at member⟩

theorem next_not_mem (numbering : Numbering last holdings) (owner : Option UnitId) :
    (last + 1 : Int) ∉ holdings owner := by
  intro member
  have := (numbering.bounds owner _ member).2
  omega

theorem issue (numbering : Numbering last holdings) (owner : Option UnitId) :
    Numbering (last + 1) (assign holdings owner (holdings owner ++ [(last + 1 : Int)])) where
  nodup other := by
    by_cases same : other = owner
    · subst other
      rw [assign_same]
      apply List.nodup_append.mpr ⟨numbering.nodup owner, by simp, ?_⟩
      intro number member next nextMember equal
      rw [List.mem_singleton] at nextMember
      exact numbering.next_not_mem owner (nextMember ▸ equal ▸ member)
    · rw [assign_other _ _ same]
      exact numbering.nodup other
  bounds other number member := by
    by_cases same : other = owner
    · subst other
      rw [assign_same, List.mem_append, List.mem_singleton] at member
      rcases member with member | rfl
      · have := numbering.bounds owner number member
        omega
      · omega
    · rw [assign_other _ _ same] at member
      have := numbering.bounds other number member
      omega
  apart one two number first second := by
    by_cases isFirst : one = owner <;> by_cases isSecond : two = owner
    · rw [isFirst, isSecond]
    · subst one
      rw [assign_other _ _ isSecond] at second
      rw [assign_same, List.mem_append, List.mem_singleton] at first
      rcases first with first | rfl
      · exact numbering.apart owner two number first second
      · exact absurd second (numbering.next_not_mem two)
    · subst two
      rw [assign_other _ _ isFirst] at first
      rw [assign_same, List.mem_append, List.mem_singleton] at second
      rcases second with second | rfl
      · exact numbering.apart one owner number first second
      · exact absurd first (numbering.next_not_mem one)
    · rw [assign_other _ _ isFirst] at first
      rw [assign_other _ _ isSecond] at second
      exact numbering.apart one two number first second

/-- An owner loses its numbers. The counter does not take them back. -/
theorem lose (numbering : Numbering last holdings) (owner : Option UnitId) :
    Numbering last (assign holdings owner []) := by
  have kept : ∀ other number, number ∈ assign holdings owner [] other →
      number ∈ holdings other := by
    intro other number member
    by_cases same : other = owner
    · simp [same] at member
    · rwa [assign_other _ _ same] at member
  refine ⟨fun other => ?_,
    fun other number member => numbering.bounds other number (kept other number member),
    fun one two number first second => numbering.apart one two number (kept one number first)
    (kept two number second)⟩
  by_cases same : other = owner
  · simp [same]
  · rw [assign_other _ _ same]
    exact numbering.nodup other

theorem handOver (numbering : Numbering last holdings) (different : owner ≠ heir) :
    Numbering last (assign (assign holdings owner []) heir (holdings heir ++ holdings owner)) := by
  -- Every number stays with its owner or has gone from `owner` to `heir`.
  have origin : ∀ other number,
      number ∈ assign (assign holdings owner []) heir (holdings heir ++ holdings owner) other →
      (number ∈ holdings other ∧ other ≠ owner) ∨ (number ∈ holdings owner ∧ other = heir) := by
    intro other number member
    by_cases isHeir : other = heir
    · rw [isHeir, assign_same, List.mem_append] at member
      rw [isHeir]
      exact member.imp (fun old => ⟨old, different.symm⟩) fun new => ⟨new, rfl⟩
    · rw [assign_other _ _ isHeir] at member
      by_cases isOwner : other = owner
      · simp [isOwner] at member
      · rw [assign_other _ _ isOwner] at member
        exact .inl ⟨member, isOwner⟩
  refine ⟨fun other => ?_, fun other number member => ?_, fun one two number first second => ?_⟩
  · by_cases isHeir : other = heir
    · subst other
      rw [assign_same]
      apply List.nodup_append.mpr ⟨numbering.nodup _, numbering.nodup _, ?_⟩
      intro number member twin twinMember equal
      exact different (numbering.apart owner heir number (equal ▸ twinMember) member)
    · rw [assign_other _ _ isHeir]
      exact (numbering.lose owner).nodup other
  · rcases origin other number member with old | new
    · exact numbering.bounds other number old.1
    · exact numbering.bounds owner number new.1
  · rcases origin one number first with old | new <;>
      rcases origin two number second with old' | new'
    · exact numbering.apart one two number old.1 old'.1
    · exact absurd (numbering.apart one owner number old.1 new'.1) old.2
    · exact absurd (numbering.apart two owner number old'.1 new.1) old'.2
    · rw [new.2, new'.2]

end Numbering

variable {memory after : Memory} {unit : UnitId}

def accountNumbers (memory : Memory) : Holdings
  | none => memory.accounts.map (·.id.value)
  | some unit => (memory.staged unit).created.map (·.id.value)

def entryNumbers (memory : Memory) : Holdings
  | none => memory.entries.map (·.id.value)
  | some unit => (memory.staged unit).entries.map (·.id.value)

theorem accountNumbers_congr (accounts : after.accounts = memory.accounts)
    (units : after.units = memory.units) :
    after.accountNumbers = memory.accountNumbers := by
  funext owner
  cases owner with
  | none => simp only [accountNumbers, accounts]
  | some unit => simp only [accountNumbers, staged, units]

theorem entryNumbers_congr (entries : after.entries = memory.entries)
    (units : after.units = memory.units) :
    after.entryNumbers = memory.entryNumbers := by
  funext owner
  cases owner with
  | none => simp only [entryNumbers, entries]
  | some unit => simp only [entryNumbers, staged, units]

theorem accountNumbers_stage (memory : Memory) (unit : UnitId) (staged : Staged) :
    (memory.stage unit staged).accountNumbers =
      assign memory.accountNumbers (some unit) (staged.created.map (·.id.value)) := by
  funext owner
  cases owner with
  | none => rfl
  | some other =>
      by_cases same : other = unit
      · subst other
        simp [accountNumbers]
      · rw [assign_other _ _ (by simpa using same)]
        simp only [accountNumbers, Memory.staged, units_stage_other memory staged same]

theorem entryNumbers_stage (memory : Memory) (unit : UnitId) (staged : Staged) :
    (memory.stage unit staged).entryNumbers =
      assign memory.entryNumbers (some unit) (staged.entries.map (·.id.value)) := by
  funext owner
  cases owner with
  | none => rfl
  | some other =>
      by_cases same : other = unit
      · subst other
        simp [entryNumbers]
      · rw [assign_other _ _ (by simpa using same)]
        simp only [entryNumbers, Memory.staged, units_stage_other memory staged same]

private theorem assign_kept (holdings : Holdings) (owner : Option UnitId) :
    assign holdings owner (holdings owner) = holdings := by
  funext other
  by_cases same : other = owner
  · rw [same, assign_same]
  · rw [assign_other _ _ same]

theorem accountNumbers_stage_kept (memory : Memory) (unit : UnitId) (staged : Staged)
    (kept : staged.created = (memory.staged unit).created) :
    (memory.stage unit staged).accountNumbers = memory.accountNumbers := by
  rw [accountNumbers_stage, kept]
  exact assign_kept memory.accountNumbers (some unit)

theorem entryNumbers_stage_kept (memory : Memory) (unit : UnitId) (staged : Staged)
    (kept : staged.entries = (memory.staged unit).entries) :
    (memory.stage unit staged).entryNumbers = memory.entryNumbers := by
  rw [entryNumbers_stage, kept]
  exact assign_kept memory.entryNumbers (some unit)

theorem accountNumbers_discard (memory : Memory) (unit : UnitId) :
    (memory.discard unit).accountNumbers = assign memory.accountNumbers (some unit) [] := by
  funext owner
  cases owner with
  | none => rfl
  | some other =>
      by_cases same : other = unit
      · subst other
        simp [accountNumbers, staged, Staged.empty]
      · rw [assign_other _ _ (by simpa using same)]
        simp only [accountNumbers, staged, units_discard_other memory same]

theorem entryNumbers_discard (memory : Memory) (unit : UnitId) :
    (memory.discard unit).entryNumbers = assign memory.entryNumbers (some unit) [] := by
  funext owner
  cases owner with
  | none => rfl
  | some other =>
      by_cases same : other = unit
      · subst other
        simp [entryNumbers, staged, Staged.empty]
      · rw [assign_other _ _ (by simpa using same)]
        simp only [entryNumbers, staged, units_discard_other memory same]

theorem accountNumbers_publish (memory : Memory) (unit : UnitId) :
    (memory.publish unit).accountNumbers = assign (assign memory.accountNumbers (some unit) []) none
      (memory.accountNumbers none ++ memory.accountNumbers (some unit)) := by
  funext owner
  cases owner with
  | none =>
      rw [assign_same]
      simp [accountNumbers, publish, discard, Staged.overlay, Function.comp_def]
  | some other =>
      rw [assign_other _ _ (by simp), ← accountNumbers_discard]
      rfl

theorem entryNumbers_publish (memory : Memory) (unit : UnitId) :
    (memory.publish unit).entryNumbers = assign (assign memory.entryNumbers (some unit) []) none
      (memory.entryNumbers none ++ memory.entryNumbers (some unit)) := by
  funext owner
  cases owner with
  | none =>
      rw [assign_same]
      simp [entryNumbers, publish, discard]
  | some other =>
      rw [assign_other _ _ (by simp), ← entryNumbers_discard]
      rfl

/-- What a unit does before it ends with the numbers of accounts: it gets the next one, or they stay
as they are. -/
theorem Act.accountNumbers (act : Act unit memory after) :
    (after.accountNumbers = memory.accountNumbers ∧ after.lastAccount = memory.lastAccount) ∨
      (after.accountNumbers = assign memory.accountNumbers (some unit)
          (memory.accountNumbers (some unit) ++ [(memory.lastAccount + 1 : Int)]) ∧
        after.lastAccount = memory.lastAccount + 1) := by
  cases act with
  | rearm faults delays => exact .inl ⟨accountNumbers_congr rfl rfl, rfl⟩
  | join row =>
      have count : (memory.join unit row).lastAccount = memory.lastAccount := by
        unfold Memory.join
        split <;> rfl
      exact .inl ⟨accountNumbers_congr (accounts_join memory unit row) (units_join memory unit row),
        count⟩
  | leave row => exact .inl ⟨accountNumbers_congr rfl rfl, rfl⟩
  | create registration free =>
      have numbers := accountNumbers_stage memory unit { memory.staged unit with
        created := (memory.staged unit).created ++ [registration.account ⟨memory.lastAccount + 1⟩] }
      rw [List.map_append] at numbers
      exact .inr ⟨numbers, rfl⟩
  | setBalance row balance held seen =>
      exact .inl ⟨accountNumbers_stage_kept memory unit _ rfl, rfl⟩
  | append draft time seen => exact .inl ⟨accountNumbers_stage_kept memory unit _ rfl, rfl⟩

/-- What a unit does before it ends with the numbers of entries: it gets the next one, or they stay
as they are. -/
theorem Act.entryNumbers (act : Act unit memory after) :
    (after.entryNumbers = memory.entryNumbers ∧ after.lastEntry = memory.lastEntry) ∨
      (after.entryNumbers = assign memory.entryNumbers (some unit)
          (memory.entryNumbers (some unit) ++ [(memory.lastEntry + 1 : Int)]) ∧
        after.lastEntry = memory.lastEntry + 1) := by
  cases act with
  | rearm faults delays => exact .inl ⟨entryNumbers_congr rfl rfl, rfl⟩
  | join row =>
      have count : (memory.join unit row).lastEntry = memory.lastEntry := by
        unfold Memory.join
        split <;> rfl
      exact .inl ⟨entryNumbers_congr (entries_join memory unit row) (units_join memory unit row),
        count⟩
  | leave row => exact .inl ⟨entryNumbers_congr rfl rfl, rfl⟩
  | create registration free => exact .inl ⟨entryNumbers_stage_kept memory unit _ rfl, rfl⟩
  | setBalance row balance held seen => exact .inl ⟨entryNumbers_stage_kept memory unit _ rfl, rfl⟩
  | append draft time seen =>
      have numbers := entryNumbers_stage memory unit { memory.staged unit with
        entries := (memory.staged unit).entries ++ [draft.entry ⟨memory.lastEntry + 1⟩ time] }
      rw [List.map_append] at numbers
      exact .inr ⟨numbers, rfl⟩

/-!
## Soundness
-/

/-- What holds of every ledger in memory, whatever its units of work do. -/
structure Sound (memory : Memory) : Prop where
  accounts : Numbering memory.lastAccount memory.accountNumbers
  entries : Numbering memory.lastEntry memory.entryNumbers
  counted : ∀ unit, memory.units unit ≠ none → unit.number ≤ memory.lastUnit
  queued : ∀ id, ∀ unit ∈ memory.queues id, memory.units unit ≠ none

theorem sound_empty : Sound empty where
  accounts := by
    have same : empty.accountNumbers = fun _ => [] := by
      funext owner
      cases owner <;> rfl
    rw [same]
    exact .empty
  entries := by
    have same : empty.entryNumbers = fun _ => [] := by
      funext owner
      cases owner <;> rfl
    rw [same]
    exact .empty
  counted unit isOpen := absurd rfl isOpen
  queued id unit member := by simp [empty] at member

namespace Sound

theorem next_units (sound : Sound memory) : memory.units ⟨memory.lastUnit + 1⟩ = none := by
  cases known : memory.units ⟨memory.lastUnit + 1⟩ with
  | none => rfl
  | some staged =>
      have bounded := sound.counted ⟨memory.lastUnit + 1⟩ (by simp [known])
      exact absurd bounded (Nat.not_succ_le_self _)

theorem rearmed (sound : Sound memory) (rearmed : Rearmed memory after) : Sound after := by
  obtain ⟨faults, delays, rfl⟩ := rearmed
  exact ⟨sound.accounts, sound.entries, sound.counted, sound.queued⟩

theorem openUnit (sound : Sound memory) : Sound memory.openUnit.2 := by
  have unstaged : ∀ unit, memory.openUnit.2.staged unit = memory.staged unit := by
    intro unit
    by_cases new : unit = ⟨memory.lastUnit + 1⟩
    · subst unit
      simp [Memory.openUnit, staged, sound.next_units]
    · simp [Memory.openUnit, staged, assign_other, new]
  refine ⟨?_, ?_, ?_, ?_⟩
  · have same : memory.openUnit.2.accountNumbers = memory.accountNumbers := by
      funext owner
      cases owner with
      | none => rfl
      | some unit => simp only [accountNumbers, unstaged]
    rw [same]
    exact sound.accounts
  · have same : memory.openUnit.2.entryNumbers = memory.entryNumbers := by
      funext owner
      cases owner with
      | none => rfl
      | some unit => simp only [entryNumbers, unstaged]
    rw [same]
    exact sound.entries
  · intro unit isOpen
    by_cases new : unit = ⟨memory.lastUnit + 1⟩
    · subst unit
      exact Nat.le_refl _
    · have old : memory.units unit ≠ none := by
        simpa [Memory.openUnit, assign_other, new] using isOpen
      exact Nat.le_succ_of_le (sound.counted unit old)
  · intro id unit member
    by_cases new : unit = ⟨memory.lastUnit + 1⟩
    · subst unit
      simp [Memory.openUnit]
    · simpa [Memory.openUnit, assign_other, new] using sound.queued id unit member

theorem act (sound : Sound memory) (isOpen : memory.units unit ≠ none)
    (act : Act unit memory after) :
    Sound after where
  accounts := by
    rcases act.accountNumbers with ⟨numbers, count⟩ | ⟨numbers, count⟩
    · rw [numbers, count]
      exact sound.accounts
    · rw [numbers, count]
      exact sound.accounts.issue (some unit)
  entries := by
    rcases act.entryNumbers with ⟨numbers, count⟩ | ⟨numbers, count⟩
    · rw [numbers, count]
      exact sound.entries
    · rw [numbers, count]
      exact sound.entries.issue (some unit)
  counted other isOpen' := by
    rw [act.lastUnit]
    by_cases same : other = unit
    · exact same ▸ sound.counted unit isOpen
    · rw [act.spares.units other same] at isOpen'
      exact sound.counted other isOpen'
  queued id other member := by
    by_cases same : other = unit
    · exact same ▸ act.isOpen isOpen
    · rw [act.spares.units other same]
      exact sound.queued id other (act.mem_queues same member)

theorem acts (sound : Sound memory) (isOpen : memory.units unit ≠ none)
    (acts : Acts unit memory after) :
    Sound after := by
  induction acts with
  | refl => exact sound
  | tail earlier act ih => exact ih.act (earlier.isOpen isOpen) act

private theorem units_of_discard {other : UnitId}
    (isOpen : (memory.discard unit).units other ≠ none) :
    memory.units other ≠ none := by
  by_cases same : other = unit
  · subst other
    simp at isOpen
  · rwa [units_discard_other memory same] at isOpen

private theorem queued_discard (sound : Sound memory) (id : AccountId) :
    ∀ other ∈ (memory.discard unit).queues id, (memory.discard unit).units other ≠ none := by
  intro other member
  obtain ⟨old, different⟩ := List.mem_filter.mp member
  rw [units_discard_other memory (by simpa using different)]
  exact sound.queued id other old

theorem discard (sound : Sound memory) (unit : UnitId) : Sound (memory.discard unit) where
  accounts := by
    rw [accountNumbers_discard]
    exact sound.accounts.lose (some unit)
  entries := by
    rw [entryNumbers_discard]
    exact sound.entries.lose (some unit)
  counted other isOpen := sound.counted other (units_of_discard isOpen)
  queued id := queued_discard sound id

theorem publish (sound : Sound memory) (unit : UnitId) : Sound (memory.publish unit) where
  accounts := by
    rw [accountNumbers_publish]
    exact sound.accounts.handOver (by simp)
  entries := by
    rw [entryNumbers_publish]
    exact sound.entries.handOver (by simp)
  counted other isOpen := sound.counted other (units_of_discard isOpen)
  queued id := queued_discard sound id

end Sound

/-!
## Lost numbers
-/

/-- A number of an entry that has been given out and that nobody keeps. -/
structure Lost (memory : Memory) (number : Int) : Prop where
  counted : number ≤ memory.lastEntry
  absent : ∀ owner, number ∉ memory.entryNumbers owner

variable {number : Int}

theorem entryNumbers_of_units {other : Memory} (same : other.units unit = memory.units unit) :
    other.entryNumbers (some unit) = memory.entryNumbers (some unit) := by
  simp only [entryNumbers, staged, same]

private theorem Lost.congr (lost : Lost memory number)
    (numbers : after.entryNumbers = memory.entryNumbers)
    (count : after.lastEntry = memory.lastEntry) : Lost after number where
  counted := count.symm ▸ lost.counted
  absent := numbers.symm ▸ lost.absent

theorem Lost.rearmed (lost : Lost memory number) (rearmed : Rearmed memory after) :
    Lost after number := by
  obtain ⟨faults, delays, rfl⟩ := rearmed
  exact lost.congr (entryNumbers_congr rfl rfl) rfl

theorem Lost.openUnit (lost : Lost memory number) : Lost memory.openUnit.2 number where
  counted := lost.counted
  absent owner := by
    cases owner with
    | none => exact lost.absent none
    | some unit =>
        by_cases new : unit = ⟨memory.lastUnit + 1⟩
        · subst unit
          simp [entryNumbers, staged, Memory.openUnit, Staged.empty]
        · rw [entryNumbers_of_units (assign_other _ _ new)]
          exact lost.absent (some unit)

theorem Lost.act (lost : Lost memory number) (act : Act unit memory after) : Lost after number := by
  rcases act.entryNumbers with ⟨numbers, count⟩ | ⟨numbers, count⟩
  · exact lost.congr numbers count
  · have counted := lost.counted
    refine ⟨by rw [count]; omega, fun owner member => ?_⟩
    rw [numbers] at member
    by_cases same : owner = some unit
    · rw [same, assign_same, List.mem_append, List.mem_singleton] at member
      rcases member with old | new
      · exact lost.absent (some unit) old
      · omega
    · rw [assign_other _ _ same] at member
      exact lost.absent owner member

theorem Lost.acts (lost : Lost memory number) (acts : Acts unit memory after) :
    Lost after number := by
  induction acts with
  | refl => exact lost
  | tail _ act ih => exact ih.act act

theorem Lost.discard (lost : Lost memory number) (unit : UnitId) :
    Lost (memory.discard unit) number where
  counted := lost.counted
  absent owner := by
    rw [entryNumbers_discard]
    by_cases same : owner = some unit
    · simp [same]
    · rw [assign_other _ _ same]
      exact lost.absent owner

theorem Lost.publish (lost : Lost memory number) (unit : UnitId) :
    Lost (memory.publish unit) number where
  counted := lost.counted
  absent owner := by
    rw [entryNumbers_publish]
    by_cases isLedger : owner = none
    · simp [isLedger, lost.absent none, lost.absent (some unit)]
    · rw [assign_other _ _ isLedger]
      by_cases same : owner = some unit
      · simp [same]
      · rw [assign_other _ _ same]
        exact lost.absent owner

/-- The numbers of a unit that is discarded are lost. -/
theorem lost_discard (sound : Sound memory) (member : number ∈ memory.entryNumbers (some unit)) :
    Lost (memory.discard unit) number where
  counted := (sound.entries.bounds (some unit) number member).2
  absent owner := by
    rw [entryNumbers_discard]
    by_cases same : owner = some unit
    · simp [same]
    · rw [assign_other _ _ same]
      exact fun other => same (sound.entries.apart owner (some unit) number other member)

theorem Act.keepsNumber (act : Act unit memory after)
    (member : number ∈ memory.entryNumbers (some unit)) :
    number ∈ after.entryNumbers (some unit) := by
  rcases act.entryNumbers with ⟨numbers, count⟩ | ⟨numbers, count⟩
  · exact numbers.symm ▸ member
  · rw [numbers, assign_same]
    exact List.mem_append_left _ member

theorem Acts.keepsNumber (acts : Acts unit memory after)
    (member : number ∈ memory.entryNumbers (some unit)) :
    number ∈ after.entryNumbers (some unit) := by
  induction acts with
  | refl => exact member
  | tail _ act ih => exact act.keepsNumber ih

end Passbook.Memory
