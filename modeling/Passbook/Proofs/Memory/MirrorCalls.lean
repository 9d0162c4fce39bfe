import Passbook.Memory.Store
import Passbook.Proofs.Memory.MirrorChange
import Passbook.Proofs.Memory.Outcome

/-!
Store calls in two worlds whose ledgers agree about an account. A call about the account, made for
corresponding units, has the same result in both; a call of a unit that is busy elsewhere has no
effect that the other world would have to share. Nothing is ordered to fail or to stall.
-/

set_option autoImplicit false

namespace Passbook

open Memory (Progress)

/-- Whether a request is about an account, or for a new one. -/
def Request.Concerns (row : AccountId) : Request → Prop
  | .lock id _ => id = row
  | .find id => id = row
  | .findName _ => False
  | .insert _ => True
  | .setBalance id _ => id = row
  | .append draft => draft.account = some row
  | .list id => id = row

/-- Whether a request leaves an account alone, and makes no new one. -/
def Request.Avoids (row : AccountId) : Request → Prop
  | .lock id _ => id ≠ row
  | .insert _ => False
  | .setBalance id _ => id ≠ row
  | .append draft => draft.account ≠ some row
  | _ => True

/-- Whether two replies are the same, but for the identifiers of entries. -/
def Request.SameReply (renumbering : Renumbering) :
    (request : Request) → request.Reply → request.Reply → Prop
  | .append _ => renumbering.SameEntry
  | .list _ => List.Forall₂ renumbering.SameEntry
  | .lock _ _ => Eq
  | .find _ => Eq
  | .findName _ => Eq
  | .insert _ => Eq
  | .setBalance _ _ => Eq

namespace Memory

/-- Whether two tries of a call have come equally far: both wait with the same, or fail with the
same error, or succeed with results that are related. -/
inductive Level {ε α β : Type} (same : α → β → Prop) :
    Poll Progress (Except ε α) → Poll Progress (Except ε β) → Prop
  | waits (progress : Progress) : Level same (.waiting progress) (.waiting progress)
  | fails (error : ε) : Level same (.ready (.error error)) (.ready (.error error))
  | succeeds {one : α} {other : β} (related : same one other) :
      Level same (.ready (.ok one)) (.ready (.ok other))

/-- Whether a world shows an account as the whole world does. What has been reported in them does
not matter. -/
structure Alongside (pairing : Pairing) (row : AccountId) (whole part : World Memory) : Prop where
  now : whole.now = part.now
  cancelled : whole.cancelled = part.cancelled
  store : Mirrors pairing row whole.store part.store

/-- Whether two steps in worlds that show an account alike have results that are related, and leave
worlds that show it alike. -/
def Agree {α β : Type} (pairing : Pairing) (row : AccountId) (drawn : Nat)
    (related : Pairing → α → β → Prop) (one : α × World Memory) (other : β × World Memory) : Prop :=
  ∃ later, pairing.Grows later drawn ∧ related later one.1 other.1 ∧
    Alongside later row one.2 other.2

variable {pairing : Pairing} {row id : AccountId} {whole part : World Memory} {unit twin : UnitId}
  {progress : Progress} {point : FaultPoint}

theorem Alongside.change {one other : Memory} (along : Alongside pairing row whole part)
    (mirrors : Mirrors pairing row one other) :
    Alongside pairing row { whole with store := one } { part with store := other } :=
  ⟨along.now, along.cancelled, mirrors⟩

theorem Alongside.agree {α β : Type} {related : Pairing → α → β → Prop} {one : α} {other : β}
    (along : Alongside pairing row whole part) (drawn : Nat) (same : related pairing one other) :
    Agree pairing row drawn related (one, whole) (other, part) :=
  ⟨pairing, .refl pairing drawn, same, along⟩

/-!
## Places where failures and delays can be ordered
-/

/-- Whether a call does not sleep any more. -/
def Progress.isAwake (now : Nat) : Progress → Bool
  | .sleeping wakeAt => wakeAt ≤ now
  | _ => true

theorem enter_unarmed {world : World Memory}
    (unarmed : Unarmed world.store.faults world.store.delays) (point : FaultPoint)
    (progress : Progress) :
    enter point progress world = (if progress.isAwake world.now then .ready (.ok ()) else
      .waiting progress, world) := by
  rw [enter_eq, begun_of_undelayed (unarmed.delays point),
    checkFault_of_unfailing (unarmed.faults point)]
  have early : dueAt point .fresh world ≤ world.now := by simp [dueAt, unarmed.delays point]
  cases progress with
  | sleeping wakeAt =>
      have due : dueAt point (.sleeping wakeAt) world = wakeAt := rfl
      rw [due]
      by_cases awake : wakeAt ≤ world.now
      · simp only [Progress.isAwake, awake, if_true, decide_true]
      · simp only [Progress.isAwake, awake, if_false, decide_false, Bool.false_eq_true]
  | fresh => exact if_pos early
  | queued deadline => exact if_pos early

theorem afterEntering_unarmed {α : Type} {world : World Memory}
    (unarmed : Unarmed world.store.faults world.store.delays) (point : FaultPoint)
    (progress : Progress) (next : World Memory → Attempt α) :
    afterEntering point progress world next = if progress.isAwake world.now then next world else
      (.waiting progress, world) := by
  rw [afterEntering, enter_unarmed unarmed]
  cases progress.isAwake world.now <;> rfl

/-!
## Calls about the account
-/

variable {α β : Type} {related : Pairing → α → β → Prop}

theorem afterEntering_agree {drawn : Nat} {next : World Memory → Attempt α}
    {other : World Memory → Attempt β} (along : Alongside pairing row whole part)
    (point : FaultPoint) (progress : Progress)
    (goesOn : Agree pairing row drawn (fun later => Level (related later))
      (next whole) (other part)) :
    Agree pairing row drawn (fun later => Level (related later))
      (afterEntering point progress whole next) (afterEntering point progress part other) := by
  rw [afterEntering_unarmed along.store.wholeUnarmed, afterEntering_unarmed along.store.partUnarmed,
    along.now]
  split
  · exact goesOn
  · exact along.agree drawn (.waits progress)

theorem afterLocking_agree {drawn : Nat} {next : World Memory → Attempt α}
    {other : World Memory → Attempt β} (along : Alongside pairing row whole part)
    (paired : pairing.units unit twin) (deadline : Deadline)
    (goesOn : ∀ whole part, Alongside pairing row whole part →
      Agree pairing row drawn (fun later => Level (related later)) (next whole) (other part)) :
    Agree pairing row drawn (fun later => Level (related later))
      (afterLocking unit row deadline whole next) (afterLocking twin row deadline part other) := by
  have joined : Alongside pairing row (update whole (·.join unit row))
      (update part (·.join twin row)) :=
    along.change (along.store.join paired)
  have held : (update whole (·.join unit row)).store.holds unit row =
      (update part (·.join twin row)).store.holds twin row :=
    joined.store.holds paired
  have now : (update whole (·.join unit row)).now = (update part (·.join twin row)).now :=
    joined.now
  simp only [afterLocking, held, now]
  split
  · exact goesOn _ _ joined
  · split
    · exact (joined.change (joined.store.leave paired)).agree drawn (.fails _)
    · exact joined.agree drawn (.waits _)

theorem tryOpen_agree (along : Alongside pairing row whole part) (progress : Progress) :
    Agree pairing row whole.store.lastUnit (fun later => Level later.units) (tryOpen progress whole)
      (tryOpen progress part) := by
  refine afterEntering_agree along .opening progress ?_
  obtain ⟨later, grows, paired, mirrors⟩ := along.store.openUnit
  exact ⟨later, grows, .succeeds paired, along.now, along.cancelled, mirrors⟩

theorem tryOpenBy_agree (along : Alongside pairing row whole part) (deadline : Deadline)
    (progress : Progress) :
    Agree pairing row whole.store.lastUnit (fun later => Level later.units)
      (store.tryOpenBy deadline progress whole) (store.tryOpenBy deadline progress part) := by
  obtain ⟨later, grows, level, left⟩ : Agree pairing row whole.store.lastUnit
      (fun later => Level later.units) (store.tryOpen progress whole)
      (store.tryOpen progress part) := tryOpen_agree along progress
  unfold LedgerStore.tryOpenBy
  generalize store.tryOpen progress whole = one, store.tryOpen progress part = other at level left
  obtain ⟨one, whole⟩ := one
  obtain ⟨other, part⟩ := other
  have now : whole.now = part.now := left.now
  cases level with
  | waits progress =>
      simp only [now]
      split
      · exact ⟨later, grows, .fails _, left⟩
      · exact ⟨later, grows, .waits progress, left⟩
  | fails error => exact ⟨later, grows, .fails error, left⟩
  | succeeds paired => exact ⟨later, grows, .succeeds paired, left⟩

theorem tryLock_agree (along : Alongside pairing row whole part) (paired : pairing.units unit twin)
    (deadline : Deadline) (drawn : Nat) :
    Agree pairing row drawn (fun _ => Level Eq) (tryLock unit row deadline whole)
      (tryLock twin row deadline part) := by
  refine afterLocking_agree along paired deadline fun whole part joined => ?_
  rw [joined.store.view paired]
  split
  · exact joined.agree drawn (.succeeds rfl)
  · exact (joined.change (joined.store.leave paired)).agree drawn (.succeeds rfl)

theorem tryInsert_agree (along : Alongside pairing row whole part)
    (paired : pairing.units unit twin) (registration : Registration) (drawn : Nat) :
    Agree pairing row drawn (fun _ => Level Eq) (tryInsert unit registration whole)
      (tryInsert twin registration part) := by
  simp only [tryInsert, along.store.isTaken paired]
  split
  · exact along.agree drawn (.fails _)
  · obtain ⟨same, mirrors⟩ := along.store.create paired registration
    exact ⟨pairing, .refl pairing drawn, .succeeds same, along.now, along.cancelled, mirrors⟩

theorem trySetBalance_agree (along : Alongside pairing row whole part)
    (paired : pairing.units unit twin) (balance : Money) (progress : Progress) (drawn : Nat) :
    Agree pairing row drawn (fun _ => Level Eq) (trySetBalance unit row balance progress whole)
      (trySetBalance twin row balance progress part) := by
  have held : Agree pairing row drawn (fun _ => Level Eq) (trySetHeld unit row balance whole)
      (trySetHeld twin row balance part) := by
    refine afterLocking_agree along paired .never fun whole part joined => ?_
    rw [joined.store.view paired]
    split
    · exact (joined.change (joined.store.setBalance paired row balance)).agree drawn (.succeeds rfl)
    · exact joined.agree drawn (.fails _)
  rcases trySetBalance_cases progress with ⟨_, _, second⟩ | ⟨_, checked⟩
  · rw [second, second]
    exact held
  · rw [checked, checked]
    refine afterEntering_agree along .setBalance progress ?_
    unfold trySetChecked
    split
    · exact along.agree drawn (.fails _)
    · exact held

theorem tryAppend_agree {draft : EntryDraft} (along : Alongside pairing row whole part)
    (paired : pairing.units unit twin) (mine : draft.account = some row) (progress : Progress)
    (drawn : Nat) :
    Agree pairing row drawn (fun later => Level later.entries.SameEntry)
      (tryAppend unit draft progress whole) (tryAppend twin draft progress part) := by
  refine afterEntering_agree along .append progress ?_
  have seen := along.store.view paired
  simp only [mine, Option.filter_some, seen]
  split
  · exact along.agree drawn (.fails _)
  · have time : timeAt part.now = timeAt whole.now := by rw [along.now]
    rw [time]
    obtain ⟨later, grows, same, mirrors⟩ := along.store.append paired draft (timeAt whole.now) drawn
    exact ⟨later, grows, .succeeds same, along.now, along.cancelled, mirrors⟩

theorem tryAsk_agree {request : Request} (along : Alongside pairing row whole part)
    (paired : pairing.units unit twin) (concerns : request.Concerns row) (progress : Progress)
    (drawn : Nat) :
    Agree pairing row drawn (fun later => Level (request.SameReply later.entries))
      (tryAsk unit request progress whole) (tryAsk twin request progress part) := by
  cases request with
  | lock id deadline =>
      cases concerns
      exact tryLock_agree along paired deadline drawn
  | find id =>
      cases concerns
      exact along.agree drawn (.succeeds (along.store.view paired))
  | findName username => cases concerns
  | insert registration => exact tryInsert_agree along paired registration drawn
  | setBalance id balance =>
      cases concerns
      exact trySetBalance_agree along paired balance progress drawn
  | append draft => exact tryAppend_agree along paired concerns progress drawn
  | list id =>
      cases concerns
      exact along.agree drawn (.succeeds (along.store.history paired))

theorem Alongside.drop (along : Alongside pairing row whole part)
    (paired : pairing.units unit twin) :
    Alongside pairing row (Memory.store.drop unit whole) (Memory.store.drop twin part) :=
  along.change (along.store.discard paired)

theorem Alongside.withdraw (along : Alongside pairing row whole part) (request : Request)
    (paired : pairing.units unit twin) (concerns : request.Concerns row) (progress : Progress) :
    Alongside pairing row (Memory.withdraw unit request progress whole)
      (Memory.withdraw twin request progress part) := by
  cases progress with
  | queued deadline =>
      cases request with
      | lock id bound =>
          cases concerns
          exact along.change (along.store.leave paired)
      | setBalance id balance =>
          cases concerns
          exact along.change (along.store.leave paired)
      | _ => exact along
  | fresh => cases request <;> exact along
  | sleeping wakeAt => cases request <;> exact along

theorem tryFinish_agree (along : Alongside pairing row whole part)
    (paired : pairing.units unit twin) (ending : Ending) (progress : Progress) (drawn : Nat) :
    Agree pairing row drawn (fun _ => Level Eq) (tryFinish unit ending progress whole)
      (tryFinish twin ending progress part) := by
  have discarded := along.change (along.store.discard paired)
  have entered := enter_unarmed along.store.wholeUnarmed
  have twinEntered := enter_unarmed along.store.partUnarmed
  rw [along.now] at entered
  cases awake : progress.isAwake part.now with
  | false =>
      cases ending <;>
        simp only [tryFinish, tryCommit, tryRollback, entered, twinEntered, awake,
          Bool.false_eq_true, if_false]
      · exact along.agree drawn (.waits progress)
      · exact along.agree drawn (.waits progress)
  | true =>
      cases ending <;>
        simp only [tryFinish, tryCommit, tryRollback, entered, twinEntered, awake, if_true]
      · rw [along.store.clash? paired]
        cases part.store.clash? twin with
        | some account => exact discarded.agree drawn (.fails _)
        | none => exact (along.change (along.store.publish paired)).agree drawn (.succeeds rfl)
      · exact discarded.agree drawn (.succeeds rfl)

/-!
## Calls of units that are busy elsewhere
-/

theorem afterEntering_elsewhere {next : World Memory → Attempt α}
    (along : Alongside pairing row whole part) (point : FaultPoint) (progress : Progress)
    (goesOn : Alongside pairing row (next whole).2 part) :
    Alongside pairing row (afterEntering point progress whole next).2 part := by
  rw [afterEntering_unarmed along.store.wholeUnarmed]
  split
  · exact goesOn
  · exact along

theorem afterLocking_elsewhere {next : World Memory → Attempt α}
    (along : Alongside pairing row whole part) (different : id ≠ row) (deadline : Deadline)
    (goesOn : ∀ whole, Alongside pairing row whole part →
      Alongside pairing row (next whole).2 part) :
    Alongside pairing row (afterLocking unit id deadline whole next).2 part := by
  have joined : Alongside pairing row (update whole (·.join unit id)) part :=
    along.change (along.store.join_other different)
  simp only [afterLocking]
  split
  · exact goesOn _ joined
  · split
    · exact joined.change (joined.store.leave_other different)
    · exact joined

theorem tryOpenBy_elsewhere (along : Alongside pairing row whole part) (deadline : Deadline)
    (progress : Progress) :
    Alongside pairing row (store.tryOpenBy deadline progress whole).2 part := by
  have opened : Alongside pairing row (store.tryOpen progress whole).2 part :=
    afterEntering_elsewhere along .opening progress
      ⟨along.now, along.cancelled, along.store.openUnit_other⟩
  unfold LedgerStore.tryOpenBy
  generalize store.tryOpen progress whole = one at opened
  obtain ⟨_ | _, left⟩ := one
  · dsimp only
    split <;> exact opened
  · exact opened

theorem tryAsk_elsewhere {request : Request} (along : Alongside pairing row whole part)
    (alone : ∀ twin, ¬ pairing.units unit twin) (avoids : request.Avoids row)
    (progress : Progress) : Alongside pairing row (tryAsk unit request progress whole).2 part := by
  cases request with
  | lock id deadline =>
      refine afterLocking_elsewhere along avoids deadline fun whole joined => ?_
      split
      · exact joined
      · exact joined.change (joined.store.leave_other avoids)
  | find id => exact along
  | findName username => exact along
  | insert registration => cases avoids
  | setBalance id balance =>
      have held : Alongside pairing row (trySetHeld unit id balance whole).2 part := by
        refine afterLocking_elsewhere along avoids .never fun whole joined => ?_
        split
        · exact joined.change (joined.store.setBalance_other alone avoids balance)
        · exact joined
      change Alongside pairing row (trySetBalance unit id balance progress whole).2 part
      rcases trySetBalance_cases progress with ⟨_, _, second⟩ | ⟨_, checked⟩
      · rw [second]
        exact held
      · rw [checked]
        refine afterEntering_elsewhere along .setBalance progress ?_
        unfold trySetChecked
        split
        · exact along
        · exact held
  | append draft =>
      refine afterEntering_elsewhere along .append progress ?_
      split
      · exact along
      · exact ⟨along.now, along.cancelled, along.store.append_other alone avoids _⟩
  | list id => exact along

theorem Alongside.dropElsewhere (along : Alongside pairing row whole part)
    (alone : ∀ twin, ¬ pairing.units unit twin) :
    Alongside pairing row (Memory.store.drop unit whole) part :=
  along.change (along.store.discard_other alone)

theorem Alongside.withdrawElsewhere (along : Alongside pairing row whole part) (unit : UnitId)
    (request : Request) (avoids : request.Avoids row) (progress : Progress) :
    Alongside pairing row (Memory.withdraw unit request progress whole) part := by
  cases progress with
  | queued deadline =>
      cases request with
      | lock id bound => exact along.change (along.store.leave_other avoids)
      | setBalance id balance => exact along.change (along.store.leave_other avoids)
      | _ => exact along
  | fresh => cases request <;> exact along
  | sleeping wakeAt => cases request <;> exact along

theorem tryFinish_elsewhere (along : Alongside pairing row whole part)
    (alone : ∀ twin, ¬ pairing.units unit twin) (ending : Ending) (progress : Progress) :
    Alongside pairing row (tryFinish unit ending progress whole).2 part := by
  have discarded := along.change (along.store.discard_other alone)
  have entered := enter_unarmed along.store.wholeUnarmed
  cases awake : progress.isAwake whole.now with
  | false =>
      cases ending <;>
        simp only [tryFinish, tryCommit, tryRollback, entered, awake, Bool.false_eq_true, if_false]
      · exact along
      · exact along
  | true =>
      cases ending <;> simp only [tryFinish, tryCommit, tryRollback, entered, awake, if_true]
      · cases whole.store.clash? unit with
        | some account => exact discarded
        | none => exact along.change (along.store.publish_other alone)
      · exact discarded

end Memory

end Passbook
