import Mathlib.Data.List.Basic
import Passbook.Call.Context

/-!
Bounds that are put together from deadlines, timeouts and tokens. Of the deadlines the earliest
counts, whatever their order, of the tokens the last one.
-/

set_option autoImplicit false

namespace Passbook

namespace Deadline

/-- The earliest of some deadlines passes when the first of them does. If none of them ever passes,
it does not pass either. -/
structure IsEarliest (deadline : Deadline) (given : List Deadline) : Prop where
  is_given : deadline ∈ given ∨ deadline = .never
  least : ∀ other ∈ given, ∀ now, other.hasPassed now = true → deadline.hasPassed now = true

variable {deadline first second : Deadline} {given others rest : List Deadline}

/-- Deadlines that pass at the same times are equal. -/
theorem eq_of_hasPassed (same : ∀ now, first.hasPassed now = second.hasPassed now) :
    first = second := by
  obtain ⟨_ | one⟩ := first <;> obtain ⟨_ | other⟩ := second
  · rfl
  · simpa [hasPassed] using same other
  · simpa [hasPassed] using same one
  · have le : other ≤ one := by simpa [hasPassed] using same one
    have ge : one ≤ other := by simpa [hasPassed] using same other
    rw [Nat.le_antisymm le ge]

theorem earlier_eq (first second : Deadline) :
    first.earlier second = first ∨ first.earlier second = second := by
  obtain ⟨_ | one⟩ := first
  · exact .inr rfl
  · obtain ⟨_ | other⟩ := second
    · exact .inl rfl
    · rcases Nat.le_total one other with le | le
      · exact .inl (by simp [earlier, Nat.min_eq_left le])
      · exact .inr (by simp [earlier, Nat.min_eq_right le])

namespace IsEarliest

theorem single (deadline : Deadline) : deadline.IsEarliest [deadline] :=
  ⟨.inl List.mem_cons_self, fun _ member _ passed => List.mem_singleton.mp member ▸ passed⟩

/-- The earlier of two deadlines stands for both of them. -/
theorem of_earlier (earliest : deadline.IsEarliest (first.earlier second :: rest)) :
    deadline.IsEarliest (first :: second :: rest) where
  is_given := by
    rcases earliest.is_given with member | same
    · rcases List.mem_cons.mp member with rfl | member
      · rcases earlier_eq first second with same | same <;> simp [same]
      · exact .inl (.tail _ (.tail _ member))
    · exact .inr same
  least := by
    intro other member now passed
    have both := earliest.least _ List.mem_cons_self now
    rw [hasPassed_earlier, Bool.or_eq_true] at both
    rcases List.mem_cons.mp member with rfl | member
    · exact both (.inl passed)
    · rcases List.mem_cons.mp member with rfl | member
      · exact both (.inr passed)
      · exact earliest.least other (.tail _ member) now passed

theorem of_never (earliest : deadline.IsEarliest (.never :: rest)) : deadline.IsEarliest rest where
  is_given := by
    rcases earliest.is_given with member | same
    · exact (List.mem_cons.mp member).symm
    · exact .inr same
  least other member := earliest.least other (.tail _ member)

/-- The earliest deadline has passed when one of them has. -/
theorem hasPassed_iff (earliest : deadline.IsEarliest given) {now : Nat} :
    deadline.hasPassed now = true ↔ ∃ other ∈ given, other.hasPassed now = true := by
  constructor
  · intro passed
    rcases earliest.is_given with member | rfl
    · exact ⟨deadline, member, passed⟩
    · cases passed
  · rintro ⟨other, member, passed⟩
    exact earliest.least other member now passed

/-- Which deadline is the earliest does not depend on their order. -/
theorem unique {other : Deadline} (earliest : deadline.IsEarliest given)
    (also : other.IsEarliest others) (same : ∀ one, one ∈ given ↔ one ∈ others) :
    deadline = other := by
  apply eq_of_hasPassed
  intro now
  rw [Bool.eq_iff_iff, earliest.hasPassed_iff, also.hasPassed_iff]
  simp only [same]

end IsEarliest

end Deadline

/-- What can be added to the bounds of a call. A timeout runs from some moment of the clock. -/
inductive Bound
  | deadline (deadline : Deadline)
  | timeout (now milliseconds : Nat)
  | token (token : Token)

namespace Bound

def deadline? : Bound → Option Deadline
  | .deadline added => some added
  | .timeout now milliseconds => some (.after now milliseconds)
  | .token _ => none

def token? : Bound → Option Token
  | .deadline _ => none
  | .timeout _ _ => none
  | .token added => some added

end Bound

namespace CallContext

def add (context : CallContext) : Bound → CallContext
  | .deadline added => context.withDeadline added
  | .timeout now milliseconds => context.withTimeout now milliseconds
  | .token added => context.withToken added

/-- The context with some bounds, which are added one after the other. -/
def build (bounds : List Bound) : CallContext := bounds.foldl add .unbounded

theorem deadline_foldl (bounds : List Bound) (context : CallContext) :
    (bounds.foldl add context).deadline.IsEarliest
      (context.deadline :: bounds.filterMap Bound.deadline?) := by
  induction bounds generalizing context with
  | nil => exact .single context.deadline
  | cons bound bounds ih =>
      have later := ih (context.add bound)
      cases bound with
      | deadline deadline => exact later.of_earlier
      | timeout now milliseconds => exact later.of_earlier
      | token token => exact later

theorem deadline_build (bounds : List Bound) :
    (build bounds).deadline.IsEarliest (bounds.filterMap Bound.deadline?) :=
  (deadline_foldl bounds .unbounded).of_never

theorem deadline_build_perm {bounds others : List Bound} (same : others.Perm bounds) :
    (build others).deadline = (build bounds).deadline :=
  (deadline_build others).unique (deadline_build bounds) fun _ =>
    (same.filterMap Bound.deadline?).mem_iff

theorem token_foldl (bounds : List Bound) (context : CallContext) :
    (bounds.foldl add context).token =
      (bounds.filterMap Bound.token?).getLast?.or context.token := by
  induction bounds generalizing context with
  | nil => rfl
  | cons bound bounds ih =>
      have later := ih (context.add bound)
      cases bound with
      | deadline deadline => exact later
      | timeout now milliseconds => exact later
      | token token =>
          have given : (Bound.token token :: bounds).filterMap Bound.token? =
              token :: bounds.filterMap Bound.token? := rfl
          rw [List.foldl_cons, later, given, List.getLast?_cons]
          cases (bounds.filterMap Bound.token?).getLast? <;> rfl

theorem token_build (bounds : List Bound) :
    (build bounds).token = (bounds.filterMap Bound.token?).getLast? := by
  rw [build, token_foldl]
  exact Option.or_none

end CallContext

end Passbook
