import Passbook.Proofs.Shared.PostingFits

/-!
What a posting does to the committed accounts and entries: nothing before its commit, and by its
commit exactly what its receipt says.
-/

set_option autoImplicit false

namespace Passbook.Posting

open Memory (Progress)

/-- What the commit of a posting does to the committed ledger: one entry more, and one balance
replaced. -/
structure Commits (posting : Posting) (receipt : Receipt) (memory after : Memory) : Prop where
  present : (memory.account? posting.account).isSome
  accounts : after.accounts = memory.accounts.map fun account =>
    if account.id = posting.account then { account with balance := receipt.balance } else account
  entries : ∃ entry, posting.Records receipt entry ∧ after.entries = memory.entries ++ [entry]

variable {posting : Posting} {memory after : Memory} {unit : UnitId}

theorem Commits.tables_ne {receipt : Receipt} (commits : posting.Commits receipt memory after) :
    after.tables ≠ memory.tables := by
  obtain ⟨entry, records, entries⟩ := commits.entries
  intro same
  have unchanged : memory.entries ++ [entry] = memory.entries :=
    entries.symm.trans (congrArg Prod.snd same)
  simp at unchanged

private theorem overlay_staged (posting : Posting) (balance : Money) (entries : List Entry)
    (account : Account) :
    (posting.staged balance entries).overlay account =
      if account.id = posting.account then { account with balance } else account := by
  by_cases same : account.id = posting.account
  · simp [Staged.overlay, staged, same]
  · simp [Staged.overlay, staged, same, assign_other]

theorem commits_publish {receipt : Receipt} {entry : Entry}
    (records : posting.Records receipt entry)
    (known : memory.units unit = some (posting.staged receipt.balance [entry]))
    (secured : posting.Secured memory unit) :
    posting.Commits receipt memory (memory.publish unit) where
  present := secured.present
  accounts := by
    simp only [Memory.publish, Memory.discard, Memory.staged_of_units known,
      staged, List.append_nil]
    exact List.map_congr_left fun account _ =>
      overlay_staged posting receipt.balance [entry] account
  entries := ⟨entry, records, by rw [Memory.entries_publish, Memory.staged_of_units known]; rfl⟩

/-- A step of a posting leaves the committed ledger alone, unless it ends the posting well and
publishes its unit. -/
theorem Move.publishes {phase : Phase UnitId Progress} {turn : Turn (Phase UnitId Progress) Result}
    (move : Move posting memory phase turn after) :
    (∃ unit receipt progress before, phase = .committing unit receipt progress ∧
      turn = .ends (.ok receipt) ∧
        Memory.Rearmed memory before ∧ before.clash? unit = none ∧ after = before.publish unit) ∨
      ((∀ receipt, turn ≠ .ends (.ok receipt)) ∧ after.tables = memory.tables) := by
  have opened : ∀ {result}, Memory.Opening memory result after → after.tables = memory.tables := by
    intro result opening
    cases opening with
    | waits progress rearmed => exact rearmed.tables
    | opens rearmed => exact rearmed.tables
    | fails error rearmed => exact rearmed.tables
  cases move with
  | keepsOpening opening => exact .inr ⟨by simp, opened opening⟩
  | opens opening => exact .inr ⟨by simp, opened opening⟩
  | failsToOpen opening => exact .inr ⟨by simp, opened opening⟩
  | interruptedOpening interruption => exact .inr ⟨by simp, rfl⟩
  | keepsLocking locking => exact .inr ⟨by simp, locking.acts.tables⟩
  | accepts locking posted => exact .inr ⟨by simp, locking.acts.tables⟩
  | refuses locking posted => exact .inr ⟨by simp, locking.acts.tables⟩
  | misses locking => exact .inr ⟨by simp, locking.acts.tables⟩
  | timesOut locking => exact .inr ⟨by simp, locking.acts.tables⟩
  | keepsWriting setting => exact .inr ⟨by simp, setting.acts.tables⟩
  | writes setting => exact .inr ⟨by simp, setting.acts.tables⟩
  | failsToWrite setting => exact .inr ⟨by simp, setting.acts.tables⟩
  | keepsAppending appending => exact .inr ⟨by simp, appending.acts.tables⟩
  | appends appending => exact .inr ⟨by simp, appending.acts.tables⟩
  | appendsTooLate interruption appending => exact .inr ⟨by simp, appending.acts.tables⟩
  | failsToAppend appending => exact .inr ⟨by simp, appending.acts.tables⟩
  | interrupted stage interruption owned early withdrawn => exact .inr ⟨by simp, withdrawn.tables⟩
  | keepsCommitting committing => exact .inr ⟨by simp, committing.rearmed.tables⟩
  | commits committing =>
      cases committing with
      | commits rearmed free => exact .inl ⟨_, _, _, _, rfl, rfl, rearmed, free, rfl⟩
  | failsToCommit committing =>
      cases committing with
      | fails error rearmed => exact .inr ⟨by simp, rearmed.tables⟩
  | keepsUndoing rollingBack => exact .inr ⟨by simp, rollingBack.rearmed.tables⟩
  | undoes rollingBack =>
      cases rollingBack with
      | rollsBack result rearmed => exact .inr ⟨by simp, rearmed.tables⟩

/-- What the posting publishes is what its receipt says. -/
theorem Move.tables {phase : Phase UnitId Progress} {turn : Turn (Phase UnitId Progress) Result}
    (fits : phase.Fits posting memory) (move : Move posting memory phase turn after) :
    (∃ receipt, turn = .ends (.ok receipt) ∧ posting.Commits receipt memory after) ∨
      ((∀ receipt, turn ≠ .ends (.ok receipt)) ∧ after.tables = memory.tables) := by
  rcases move.publishes with ⟨unit, receipt, progress, before, rfl, ends, rearmed, free, rfl⟩ | same
  · obtain ⟨⟨entry, records, staged⟩, secured⟩ := fits
    have commits :=
      commits_publish records ((congrFun rearmed.units _).trans staged) (secured.rearmed rearmed)
    refine .inl ⟨receipt, ends, secured.present, ?_, ?_⟩
    · rw [commits.accounts, rearmed.accounts]
    · rw [← rearmed.entries]
      exact commits.entries
  · exact .inr same

theorem tables_giveUp (posting : Posting) (phase : Phase UnitId Progress) (world : World Memory) :
    (giveUp Memory.store posting phase world).store.tables = world.store.tables := by
  cases phase with
  | opening progress => rfl
  | locking unit progress =>
      exact (Memory.withdraw_acts unit posting.lockRequest progress world).tables
  | writing unit balance progress =>
      exact (Memory.withdraw_acts unit (posting.balanceRequest balance) progress world).tables
  | appending unit balance progress =>
      exact (Memory.withdraw_acts unit posting.entryRequest progress world).tables
  | committing unit receipt progress => rfl
  | undoing unit cause progress => rfl

end Passbook.Posting

namespace Passbook.Shared

open Memory (Progress)

/-- What a step of a posting makes of the committed ledger and of the posting itself. -/
inductive OwnStep (posting : Posting) (memory after : Memory) :
    Course (Posting.Phase UnitId Progress) Posting.Result →
    Course (Posting.Phase UnitId Progress) Posting.Result → Prop
  | commits {phase : Posting.Phase UnitId Progress} {receipt : Receipt}
      (commits : posting.Commits receipt memory after) :
      OwnStep posting memory after (.running phase) (.ended (.ok receipt))
  | spares {phase : Posting.Phase UnitId Progress}
      {next : Course (Posting.Phase UnitId Progress) Posting.Result}
      (tables : after.tables = memory.tables) (unpaid : ∀ receipt, next ≠ .ended (.ok receipt)) :
      OwnStep posting memory after (.running phase) next
  | rests {course : Course (Posting.Phase UnitId Progress) Posting.Result}
      (tables : after.tables = memory.tables) :
      OwnStep posting memory after course course

variable {posting : Posting} {course : Course (Posting.Phase UnitId Progress) Posting.Result}

theorem own_proceed {world : World Memory} (fits : course.Fits posting world.store) :
    ∃ next, ((Client.posting posting course).proceed world).1 = .posting posting next ∧
      OwnStep posting world.store ((Client.posting posting course).proceed world).2.store course
        next := by
  cases course with
  | ended result => exact ⟨_, rfl, .rests rfl⟩
  | dropped => exact ⟨_, rfl, .rests rfl⟩
  | running phase =>
      refine ⟨.ofTurn (posting.step Memory.store phase world).1, rfl, ?_⟩
      change OwnStep posting world.store (posting.step Memory.store phase world).2.store _ _
      rcases (posting.step_move phase world).tables fits
        with ⟨receipt, ends, commits⟩ | ⟨goesOn, tables⟩
      · rw [ends]
        exact .commits commits
      · refine .spares tables fun receipt ends => ?_
        generalize (posting.step Memory.store phase world).1 = turn at goesOn ends
        cases turn with
        | rests next => cases ends
        | proceeds next => cases ends
        | ends result =>
            cases ends
            exact absurd rfl (goesOn receipt)

theorem own_giveUp (posting : Posting)
    (course : Course (Posting.Phase UnitId Progress) Posting.Result) (world : World Memory) :
    ∃ next, ((Client.posting posting course).giveUp world).1 = .posting posting next ∧
      OwnStep posting world.store ((Client.posting posting course).giveUp world).2.store course
        next := by
  cases course with
  | ended result => exact ⟨_, rfl, .rests rfl⟩
  | dropped => exact ⟨_, rfl, .rests rfl⟩
  | running phase =>
      exact ⟨_, rfl,
        .spares (Posting.tables_giveUp posting phase world) fun receipt same => by cases same⟩

end Passbook.Shared
