import Passbook.Proofs.Calls.Story

/-!
The order of a posting's calls. Whatever the store answers and whenever the caller is interrupted,
the calls are the beginning of one plan, with at most a rollback after them, and each call of the
plan comes right after the success of the one before.
-/

set_option autoImplicit false

namespace Passbook.Calls

variable {σ υ π : Type}

def Call.isForward : Call υ → Bool
  | .finishing _ .rollback => false
  | _ => true

/-- The calls that have been issued, in their order. -/
def calls (trace : List (Event υ)) : List (Call υ) :=
  trace.filterMap fun
    | .issued call => some call
    | _ => none

/-- All calls of a posting that goes well. -/
def plan (posting : Posting) (unit : υ) (balance : Money) : List (Call υ) :=
  [.opening, .asking unit posting.lockRequest, .asking unit (posting.balanceRequest balance),
    .asking unit posting.entryRequest, .finishing unit .commit]

/-- Calls that are the beginning of a plan. Before a unit has been opened there is nothing to plan
but the opening. -/
def Planned (posting : Posting) (made : List (Call υ)) : Prop :=
  made <+: [.opening] ∨ ∃ unit balance, made <+: plan posting unit balance

/-- The way in which a unit of work is closed. -/
inductive Closing
  | commit
  | rollback
  | drop
  deriving DecidableEq

/-- The units that have been closed, or begun to be closed, and how. -/
def closings (trace : List (Event υ)) : List (υ × Closing) :=
  trace.filterMap fun
    | .issued (.finishing unit .commit) => some (unit, .commit)
    | .issued (.finishing unit .rollback) => some (unit, .rollback)
    | .dropped unit => some (unit, .drop)
    | _ => none

/-- When a call may be issued: right after the success of the call before. The balance to be set is
the one that the movement makes of the locked account, and the commit needs a caller who is still
waiting when the entry has been granted. -/
inductive Due (posting : Posting) : List (Event υ) → Call υ → Prop
  | opening : Due posting [] .opening
  | lock (before : List (Event υ)) (unit : υ) :
      Due posting (before ++ [.opened (.ok unit)]) (.asking unit posting.lockRequest)
  | balance (before : List (Event υ)) (unit : υ) (given : World Unit) {account : Account}
      {balance : Money} (posted : post account.balance posting.kind posting.amount = .ok balance) :
      Due posting (before ++ [.answered unit posting.lockRequest (.ok (some account)) given])
        (.asking unit (posting.balanceRequest balance))
  | entry (before : List (Event υ)) (unit : υ) (balance : Money) (given : World Unit) :
      Due posting (before ++ [.answered unit (posting.balanceRequest balance) (.ok ()) given])
        (.asking unit posting.entryRequest)
  | commit (before : List (Event υ)) (unit : υ) (entry : Entry) {given : World Unit}
      (goesOn : posting.context.interruption given = none) :
      Due posting (before ++ [.answered unit posting.entryRequest (.ok entry) given])
        (.finishing unit .commit)
  | rollback {before : List (Event υ)} {unit : υ} (opened : .opened (.ok unit) ∈ before)
      (unclosed : closings before = []) : Due posting before (.finishing unit .rollback)

/-- Every call of a trace was due when it was issued. -/
def EachDue (posting : Posting) (trace : List (Event υ)) : Prop :=
  ∀ before call after, trace = before ++ .issued call :: after → Due posting before call

/-- The calls of a posting, at any moment. -/
structure Orderly (posting : Posting) (trace : List (Event υ)) : Prop where
  planned : Planned posting ((calls trace).filter Call.isForward)
  due : EachDue posting trace
  own : ∀ unit closing, (unit, closing) ∈ closings trace → .opened (.ok unit) ∈ trace

/-! ## The calls of each piece of a trace -/

def Event.isIssue : Event υ → Bool
  | .issued _ => true
  | _ => false

def Event.isEnd : Event υ → Bool
  | .issued (.finishing _ _) => true
  | .finished _ _ _ => true
  | .dropped _ => true
  | _ => false

/-- A trace in which nothing has been done yet about the end of a unit. -/
def Unclosed (trace : List (Event υ)) : Prop := ∀ event ∈ trace, event.isEnd = false

@[simp] theorem calls_append (first second : List (Event υ)) :
    calls (first ++ second) = calls first ++ calls second :=
  List.filterMap_append

@[simp] theorem closings_append (first second : List (Event υ)) :
    closings (first ++ second) = closings first ++ closings second := List.filterMap_append

theorem Unclosed.append {first second : List (Event υ)} (one : Unclosed first)
    (other : Unclosed second) :
    Unclosed (first ++ second) := by
  intro event member
  rcases List.mem_append.mp member with early | late
  · exact one event early
  · exact other event late

theorem unclosed_begun (unit : υ) : Unclosed (begun unit) := by
  simp [Unclosed, begun, Event.isEnd]

theorem unclosed_exchange (unit : υ) (request : Request) (answer : Except StoreError request.Reply)
    (given : World Unit) : Unclosed (exchange unit request answer given) := by
  simp [Unclosed, exchange, Event.isEnd]

theorem unclosed_issue_opening (isTried : Bool) : Unclosed (issue isTried (.opening : Call υ)) := by
  cases isTried with
  | false => simp [Unclosed, issue]
  | true => simp [Unclosed, issue, Event.isEnd]

theorem unclosed_issue_asking (isTried : Bool) (unit : υ) (request : Request) :
    Unclosed (issue isTried (.asking unit request)) := by
  cases isTried with
  | false => simp [Unclosed, issue]
  | true => simp [Unclosed, issue, Event.isEnd]

theorem Unclosed.closings {trace : List (Event υ)} (unclosed : Unclosed trace) :
    Calls.closings trace = [] := by
  apply List.filterMap_eq_nil_iff.mpr
  intro event member
  have early := unclosed event member
  cases event with
  | issued call =>
      cases call with
      | opening => rfl
      | asking _ _ => rfl
      | finishing _ _ => simp [Event.isEnd] at early
  | opened _ => rfl
  | answered _ _ _ _ => rfl
  | finished _ _ _ => rfl
  | dropped _ => simp [Event.isEnd] at early

theorem Unclosed.not_issued {trace : List (Event υ)} (unclosed : Unclosed trace) (unit : υ)
    (ending : Ending) :
    .issued (.finishing unit ending) ∉ trace := by
  intro member
  cases unclosed _ member

theorem Unclosed.not_finished {trace : List (Event υ)} (unclosed : Unclosed trace) (unit : υ)
    (ending : Ending) (answer : Except StoreError Unit) : .finished unit ending answer ∉ trace := by
  intro member
  cases unclosed _ member

theorem Unclosed.not_dropped {trace : List (Event υ)} (unclosed : Unclosed trace) (unit : υ) :
    .dropped unit ∉ trace := by
  intro member
  cases unclosed _ member

section Pieces

variable {posting : Posting} {unit : υ} {done : List (Event υ)} {request : Request} {stage : Stage}

theorem Ready.unclosed (ready : Ready posting unit done request stage) : Unclosed done := by
  induction ready with
  | lock => exact unclosed_begun unit
  | balance _ given _ ih => exact ih.append (unclosed_exchange unit _ _ given)
  | entry _ given ih => exact ih.append (unclosed_exchange unit _ _ given)

theorem Recorded.unclosed (recorded : Recorded posting unit done) : Unclosed done := by
  cases recorded with
  | entry ready entry _ => exact ready.unclosed.append (unclosed_exchange unit _ _ _)

theorem Fails.unclosed {cause : PostingError} (fails : Fails posting unit done cause) :
    Unclosed done := by
  cases fails with
  | interrupted ready isTried _ =>
      exact ready.unclosed.append (unclosed_issue_asking isTried unit _)
  | refused ready _ given => exact ready.unclosed.append (unclosed_exchange unit _ _ given)
  | missing ready given => exact ready.unclosed.append (unclosed_exchange unit _ _ given)
  | forbidden ready given _ => exact ready.unclosed.append (unclosed_exchange unit _ _ given)
  | late ready _ _ => exact ready.unclosed.append (unclosed_exchange unit _ _ _)

/-- The unit that a posting asks is the one that was opened. -/
theorem Ready.opened (ready : Ready posting unit done request stage) (other : υ) :
    .opened (.ok other) ∈ done ↔ other = unit := by
  induction ready with
  | lock => simp [begun]
  | balance _ _ _ ih => simp [exchange, ih]
  | entry _ _ ih => simp [exchange, ih]

theorem Recorded.opened (recorded : Recorded posting unit done) (other : υ) :
    .opened (.ok other) ∈ done ↔ other = unit := by
  cases recorded with
  | entry ready _ _ => simp [exchange, ready.opened]

theorem Fails.opened {cause : PostingError} (fails : Fails posting unit done cause) (other : υ) :
    .opened (.ok other) ∈ done ↔ other = unit := by
  cases fails with
  | interrupted ready isTried _ => simp [issue, ready.opened]
  | refused ready _ _ => simp [exchange, ready.opened]
  | missing ready _ => simp [exchange, ready.opened]
  | forbidden ready _ _ => simp [exchange, ready.opened]
  | late ready _ _ => simp [exchange, ready.opened]

theorem Ready.planned (ready : Ready posting unit done request stage) :
    ∃ balance rest, calls done ++ .asking unit request :: rest = plan posting unit balance := by
  cases ready with
  | lock => exact ⟨.zero, _, rfl⟩
  | balance ready _ posted =>
      cases ready with
      | lock => exact ⟨_, _, rfl⟩
  | entry ready _ =>
      cases ready with
      | balance ready _ posted =>
          cases ready with
          | lock => exact ⟨_, _, rfl⟩

theorem Recorded.planned (recorded : Recorded posting unit done) :
    ∃ balance, calls done ++ [.finishing unit .commit] = plan posting unit balance := by
  cases recorded with
  | entry ready _ _ =>
      cases ready with
      | entry ready _ =>
          cases ready with
          | balance ready _ _ =>
              cases ready with
              | lock => exact ⟨_, rfl⟩

end Pieces

/-! ## The plan -/

section Plan

variable {posting : Posting} {unit : υ} {done : List (Event υ)}

theorem filter_plan (posting : Posting) (unit : υ) (balance : Money) :
    (plan posting unit balance).filter Call.isForward = plan posting unit balance := rfl

theorem planned_of_prefix {balance : Money} {made : List (Call υ)}
    (early : made <+: plan posting unit balance) :
    Planned posting (made.filter Call.isForward) := by
  have kept := early.filter Call.isForward
  rw [filter_plan] at kept
  exact .inr ⟨unit, balance, kept⟩

theorem calls_issue (isTried : Bool) (call : Call υ) :
    calls (issue isTried call) = if isTried then [call] else [] := by
  cases isTried with
  | false => rfl
  | true => rfl

theorem planned_opening (isTried : Bool) :
    Planned posting ((calls (issue isTried (.opening : Call υ))).filter Call.isForward) := by
  left
  cases isTried with
  | false => exact List.nil_prefix
  | true => exact List.prefix_rfl

theorem Ready.calls_prefix {request : Request} {stage : Stage}
    (ready : Ready posting unit done request stage) (isTried : Bool) :
    ∃ balance, calls (done ++ issue isTried (.asking unit request)) <+:
      plan posting unit balance := by
  obtain ⟨balance, rest, planned⟩ := ready.planned
  refine ⟨balance, ?_⟩
  rw [← planned, calls_append, calls_issue]
  apply List.prefix_append_right_inj _ |>.mpr
  cases isTried with
  | false => exact List.nil_prefix
  | true => exact ⟨rest, rfl⟩

theorem Ready.exchange_prefix {request : Request} {stage : Stage}
    (ready : Ready posting unit done request stage) (answer : Except StoreError request.Reply)
    (given : World Unit) :
    ∃ balance, calls (done ++ exchange unit request answer given) <+:
      plan posting unit balance := by
  have early := ready.calls_prefix true
  rw [calls_append] at early ⊢
  exact early

theorem Recorded.calls_prefix (recorded : Recorded posting unit done) (isTried : Bool) :
    ∃ balance, calls (done ++ issue isTried (.finishing unit .commit)) <+:
      plan posting unit balance := by
  obtain ⟨balance, planned⟩ := recorded.planned
  refine ⟨balance, ?_⟩
  rw [← planned, calls_append, calls_issue]
  apply List.prefix_append_right_inj _ |>.mpr
  cases isTried with
  | false => exact List.nil_prefix
  | true => exact List.prefix_rfl

theorem Fails.calls_prefix {cause : PostingError} (fails : Fails posting unit done cause) :
    ∃ balance, calls done <+: plan posting unit balance := by
  cases fails with
  | interrupted ready isTried _ => exact ready.calls_prefix isTried
  | refused ready _ _ => exact ready.exchange_prefix _ _
  | missing ready _ => exact ready.exchange_prefix _ _
  | forbidden ready _ _ => exact ready.exchange_prefix _ _
  | late ready _ _ => exact ready.exchange_prefix _ _

end Plan

/-! ## Due calls -/

section Due

variable {posting : Posting} {unit : υ} {done : List (Event υ)}

theorem eachDue_nil : EachDue posting ([] : List (Event υ)) := by
  intro before call after split
  cases before with
  | nil => cases split
  | cons _ _ => cases split

/-- A trace that grows by one event grows by one thing to check. -/
theorem EachDue.concat {event : Event υ} (due : EachDue posting done)
    (next : ∀ call, event = .issued call → Due posting done call) :
    EachDue posting (done ++ [event]) := by
  intro before call after split
  rcases List.eq_nil_or_concat after with rfl | ⟨front, last, rfl⟩
  · obtain ⟨same, issued⟩ := List.append_inj' split rfl
    obtain rfl := same
    exact next call (List.singleton_inj.mp issued)
  · rw [List.concat_eq_append, ← List.cons_append, ← List.append_assoc] at split
    exact due before call front (List.append_inj' split rfl).1

theorem EachDue.answer {event : Event υ} (due : EachDue posting done)
    (silent : event.isIssue = false) :
    EachDue posting (done ++ [event]) := by
  apply due.concat
  intro call same
  rw [same] at silent
  cases silent

theorem EachDue.issued {call : Call υ} (due : EachDue posting done) (next : Due posting done call) :
    EachDue posting (done ++ [.issued call]) := by
  apply due.concat
  intro other same
  cases same
  exact next

theorem EachDue.issue {call : Call υ} (due : EachDue posting done) (next : Due posting done call)
    (isTried : Bool) :
    EachDue posting (done ++ Calls.issue isTried call) := by
  cases isTried with
  | false =>
      rw [Calls.issue, if_neg Bool.false_ne_true, List.append_nil]
      exact due
  | true => exact due.issued next

theorem EachDue.exchange {request : Request} (due : EachDue posting done)
    (next : Due posting done (.asking unit request)) (answer : Except StoreError request.Reply)
    (given : World Unit) :
    EachDue posting (done ++ Calls.exchange unit request answer given) := by
  have both : EachDue posting
      (done ++ [.issued (.asking unit request)] ++ [.answered unit request answer given]) :=
    (due.issued next).answer rfl
  rw [List.append_assoc] at both
  exact both

theorem eachDue_opening : EachDue posting [(.issued .opening : Event υ)] :=
  eachDue_nil.issued .opening

theorem Ready.due {request : Request} {stage : Stage}
    (ready : Ready posting unit done request stage) :
    EachDue posting done ∧ Due posting done (.asking unit request) := by
  induction ready with
  | lock =>
      constructor
      · exact eachDue_opening.answer rfl
      · exact .lock [.issued .opening] unit
  | @balance before _ _ ready given posted ih =>
      obtain ⟨due, next⟩ := ih
      constructor
      · exact due.exchange next _ given
      · have right :=
          Due.balance (before ++ [.issued (.asking unit posting.lockRequest)]) unit given posted
        rw [List.append_assoc] at right
        exact right
  | @entry before balance ready given ih =>
      obtain ⟨due, next⟩ := ih
      constructor
      · exact due.exchange next _ given
      · have right :
            Due posting (before ++ [.issued (.asking unit (posting.balanceRequest balance))] ++
              [.answered unit (posting.balanceRequest balance) (.ok ()) given])
              (.asking unit posting.entryRequest) :=
          .entry _ unit balance given
        rw [List.append_assoc] at right
        exact right

theorem Recorded.due (recorded : Recorded posting unit done) :
    EachDue posting done ∧ Due posting done (.finishing unit .commit) := by
  cases recorded with
  | @entry before given ready entry goesOn =>
      obtain ⟨due, next⟩ := ready.due
      constructor
      · exact due.exchange next _ given
      · have right :=
          Due.commit (before ++ [.issued (.asking unit posting.entryRequest)]) unit entry goesOn
        rw [List.append_assoc] at right
        exact right

theorem Fails.due {cause : PostingError} (fails : Fails posting unit done cause) :
    EachDue posting done ∧ Due posting done (.finishing unit .rollback) := by
  refine ⟨?_, .rollback ((fails.opened unit).mpr rfl) fails.unclosed.closings⟩
  cases fails with
  | interrupted ready isTried _ => exact ready.due.1.issue ready.due.2 isTried
  | refused ready _ given => exact ready.due.1.exchange ready.due.2 _ given
  | missing ready given => exact ready.due.1.exchange ready.due.2 _ given
  | forbidden ready given _ => exact ready.due.1.exchange ready.due.2 _ given
  | late ready _ _ => exact ready.due.1.exchange ready.due.2 _ _

end Due

/-! ## Orderly traces -/

section Orderly

variable {posting : Posting} {unit : υ} {done : List (Event υ)}

theorem orderly_opening (isTried : Bool) : Orderly posting (issue isTried (.opening : Call υ)) where
  planned := planned_opening isTried
  due := by
    have due : EachDue posting ([] ++ issue isTried (.opening : Call υ)) :=
      eachDue_nil.issue .opening isTried
    exact due
  own := by
    intro unit closing closed
    rw [(unclosed_issue_opening isTried).closings] at closed
    cases closed

/-- An answer, or the drop of a unit that had been opened, leaves a trace orderly. -/
theorem Orderly.concat {event : Event υ} (orderly : Orderly posting done)
    (silent : event.isIssue = false)
    (own : ∀ unit, event = .dropped unit → .opened (.ok unit) ∈ done) :
    Orderly posting (done ++ [event]) where
  planned := by
    have unissued : calls [event] = [] := by
      cases event with
      | issued _ => cases silent
      | opened _ => rfl
      | answered _ _ _ _ => rfl
      | finished _ _ _ => rfl
      | dropped _ => rfl
    rw [calls_append, unissued, List.append_nil]
    exact orderly.planned
  due := orderly.due.answer silent
  own := by
    intro unit closing closed
    apply List.mem_append_left
    rw [closings_append] at closed
    rcases List.mem_append.mp closed with early | late
    · exact orderly.own unit closing early
    · cases event with
      | issued _ => cases silent
      | opened _ => cases late
      | answered _ _ _ _ => cases late
      | finished _ _ _ => cases late
      | dropped other =>
          cases List.mem_singleton.mp late
          exact own unit rfl

theorem Ready.orderly {request : Request} {stage : Stage}
    (ready : Ready posting unit done request stage) (isTried : Bool) :
    Orderly posting (done ++ issue isTried (.asking unit request)) where
  planned := by
    obtain ⟨balance, early⟩ := ready.calls_prefix isTried
    exact planned_of_prefix early
  due := ready.due.1.issue ready.due.2 isTried
  own := by
    intro other closing closed
    rw [(ready.unclosed.append (unclosed_issue_asking isTried unit request)).closings] at closed
    cases closed

theorem Recorded.orderly (recorded : Recorded posting unit done) (isTried : Bool) :
    Orderly posting (done ++ issue isTried (.finishing unit .commit)) where
  planned := by
    obtain ⟨balance, early⟩ := recorded.calls_prefix isTried
    exact planned_of_prefix early
  due := recorded.due.1.issue recorded.due.2 isTried
  own := by
    intro other closing closed
    rw [closings_append, recorded.unclosed.closings, List.nil_append] at closed
    apply List.mem_append_left
    cases isTried with
    | false => cases closed
    | true =>
        cases List.mem_singleton.mp closed
        exact (recorded.opened unit).mpr rfl

theorem Fails.orderly {cause : PostingError} (fails : Fails posting unit done cause)
    (isTried : Bool) :
    Orderly posting (done ++ issue isTried (.finishing unit .rollback)) where
  planned := by
    obtain ⟨balance, early⟩ := fails.calls_prefix
    have backward : ([.finishing unit .rollback] : List (Call υ)).filter Call.isForward = [] := rfl
    have forward := planned_of_prefix early
    rw [calls_append, calls_issue, List.filter_append]
    cases isTried with
    | false =>
        rw [if_neg Bool.false_ne_true, List.filter_nil, List.append_nil]
        exact forward
    | true =>
        rw [if_pos rfl, backward, List.append_nil]
        exact forward
  due := fails.due.1.issue fails.due.2 isTried
  own := by
    intro other closing closed
    rw [closings_append, fails.unclosed.closings, List.nil_append] at closed
    apply List.mem_append_left
    cases isTried with
    | false => cases closed
    | true =>
        cases List.mem_singleton.mp closed
        exact (fails.opened unit).mpr rfl

theorem Orderly.conclusion {ending : Ending}
    (orderly : Orderly posting (done ++ issue true (.finishing unit ending)))
    (answer : Except StoreError Unit) :
    Orderly posting (done ++ Calls.conclusion unit ending answer) := by
  have both : Orderly posting
      (done ++ issue true (.finishing unit ending) ++ [.finished unit ending answer]) :=
    orderly.concat rfl fun _ same => by cases same
  rw [List.append_assoc] at both
  exact both

theorem Orderly.dropped (orderly : Orderly posting done) (opened : .opened (.ok unit) ∈ done) :
    Orderly posting (done ++ [.dropped unit]) := by
  apply orderly.concat rfl
  intro other same
  cases same
  exact opened

theorem Story.orderly {standing : Standing υ π} {trace : List (Event υ)}
    (story : Story posting standing trace) :
    Orderly posting trace := by
  cases story with
  | opening progress => exact orderly_opening progress.isSome
  | locking ready progress => exact ready.orderly progress.isSome
  | writing ready progress => exact ready.orderly progress.isSome
  | appending ready _ progress => exact ready.orderly progress.isSome
  | committing recorded _ progress => exact recorded.orderly progress.isSome
  | undoing fails _ progress => exact fails.orderly progress.isSome
  | unopened isTried _ => exact orderly_opening isTried
  | refusedOpening refusal _ =>
      have issued : Orderly posting [(.issued .opening : Event υ)] := orderly_opening true
      have both : Orderly posting ([.issued .opening] ++ [(.opened (.error refusal) : Event υ)]) :=
        issued.concat rfl fun _ same => by cases same
      exact both
  | committed recorded answer _ => exact (recorded.orderly true).conclusion answer
  | undone fails _ answer => exact (fails.orderly true).conclusion answer
  | @dropped unit failed _ fails _ =>
      have opened := (fails.opened unit).mpr rfl
      have early := fails.orderly false
      rw [issue, if_neg Bool.false_ne_true, List.append_nil] at early
      exact early.dropped opened
  | abandonedEarly isTried => exact orderly_opening isTried
  | abandonedAsking ready isTried =>
      exact (ready.orderly isTried).dropped (List.mem_append_left _ ((ready.opened _).mpr rfl))
  | abandonedCommitting recorded isTried =>
      exact (recorded.orderly isTried).dropped
        (List.mem_append_left _ ((recorded.opened _).mpr rfl))
  | abandonedUndoing fails isTried =>
      exact (fails.orderly isTried).dropped (List.mem_append_left _ ((fails.opened _).mpr rfl))

end Orderly

end Passbook.Calls
