import Passbook.Proofs.Memory.Refusals
import Passbook.Proofs.Shared.Inquiries

/-!
Inquiries that make a single request. What such an inquiry answers is what its unit of work, which
had staged nothing before, was told at some moment of the run; what the request has staged stays as
it is until the unit ends.
-/

set_option autoImplicit false

namespace Passbook

open Memory (Progress Rearmed Stops Clashes)

namespace Script

variable {α : Type}

/-- Whether a script makes one request and answers with what it hears. -/
def IsSingle : Script α → Prop
  | .done _ => False
  | .ask _ next => ∀ reply, ∃ answer, next reply = .done answer

/-- Whether the first request of a script, made by a unit of work in some world, leads to an answer
and leaves another world. -/
def Answers (unit : UnitId) (world : World Memory) (answer : α)
    (left : World Memory) : Script α → Prop
  | .done _ => False
  | .ask request next =>
      ∃ progress reply, Memory.tryAsk unit request progress world = (.ready (.ok reply), left) ∧
        next reply = .done answer

def Refuses (unit : UnitId) (world : World Memory) (cause : StoreError) : Script α → Prop
  | .done _ => False
  | .ask request _ =>
      ∃ progress, (Memory.tryAsk unit request progress world).1 = .ready (.error cause)

end Script

/-- Why a query ends with an error in its next step. -/
inductive Query.Fails {α : Type} (world : World Memory) :
    Query.Phase UnitId Progress α → StoreError → Prop
  | opening {progress : Progress} {error : StoreError} (stops : Stops error) :
      Fails world (.opening progress) error
  | committing {unit : UnitId} {answer : α} {progress : Progress} {error : StoreError}
      (refused : Stops error ∨ Clashes world.store unit error) :
      Fails world (.committing unit answer progress) error
  | undoing {unit : UnitId} {cause : StoreError} {progress : Progress} :
      Fails world (.undoing unit cause progress) cause

theorem Query.step_fails {α : Type} {query : Query α} {phase : Query.Phase UnitId Progress α}
    {world : World Memory} {error : StoreError}
    (ends : (query.step Memory.store phase world).1 = .ends (.error error)) :
    Fails world phase error := by
  cases phase with
  | opening progress =>
      simp only [step] at ends
      rcases tried : Memory.store.tryOpenBy query.deadline progress world
        with ⟨next | failure | unit, left⟩ <;> rw [tried] at ends
      · cases ends
      · cases ends
        exact .opening (Memory.stops_of_tryOpenBy (congrArg Prod.fst tried))
      · cases ends
  | asking unit request script progress =>
      simp only [step] at ends
      rcases tried : Memory.store.tryAsk unit request progress world
        with ⟨next | failure | reply, left⟩ <;> rw [tried] at ends <;> cases ends
  | committing unit answer progress =>
      simp only [step] at ends
      rcases tried : Memory.store.tryFinish unit .commit progress world
        with ⟨next | failure | done, left⟩ <;> rw [tried] at ends
      · cases ends
      · cases ends
        exact .committing (Memory.tryCommit_refuses (congrArg Prod.fst tried))
      · cases ends
  | undoing unit cause progress =>
      simp only [step] at ends
      rcases tried : Memory.store.tryFinish unit .rollback progress world
        with ⟨next | failure | done, left⟩ <;> rw [tried] at ends
      · cases ends
      · cases ends
        exact .undoing
      · cases ends
        exact .undoing

namespace Shared

variable {id : ClientId} {actions earlier : List Action} {action : Action} {unit : UnitId}
  {asked : Inquiry}
  {course : Course (Query.Phase UnitId Progress asked.Answer) (Query.Result asked.Answer)}
  {phase : Query.Phase UnitId Progress asked.Answer}

/-- What an inquiry has heard at some moment, what this was answered with, and that its unit has
staged nothing else until now. -/
structure Hears (id : ClientId) {α : Type} (script : Script α) (unit : UnitId) (answer : α)
    (moment : List Action) (left : World Memory) (now : List Action) : Prop where
  taken : moment ++ [.proceed id] <+: now
  present : (run moment).clients id ≠ none
  blank : (run moment).memory.units unit = some .empty
  answers : script.Answers unit (run moment).world answer left
  kept : (run now).memory.units unit = left.store.units unit

def Refused {α : Type} (script : Script α) (cause : StoreError) (now : List Action) : Prop :=
  ∃ moment unit, moment <+: now ∧ (run moment).memory.units unit = some .empty ∧
    script.Refuses unit (run moment).world cause

/-- How far an inquiry with a single request has come, and how it has got there. -/
inductive Single (id : ClientId) (asked : Inquiry) (actions : List Action) :
    Course (Query.Phase UnitId Progress asked.Answer) (Query.Result asked.Answer) → Prop
  | opening {progress : Progress} : Single id asked actions (.running (.opening progress))
  | asking {unit : UnitId} {request : Request} {next : request.Reply → Script asked.Answer}
      {progress : Progress} (script : asked.query.script = .ask request next)
      (blank : (run actions).memory.units unit = some .empty) :
      Single id asked actions (.running (.asking unit request next progress))
  | committing {unit : UnitId} {answer : asked.Answer} {progress : Progress} {moment : List Action}
      {left : World Memory} (hears : Hears id asked.query.script unit answer moment left actions) :
      Single id asked actions (.running (.committing unit answer progress))
  | undoing {unit : UnitId} {cause : StoreError} {progress : Progress}
      (refused : Refused asked.query.script cause actions) :
      Single id asked actions (.running (.undoing unit cause progress))
  | succeeds {unit : UnitId} {answer : asked.Answer} {moment last : List Action}
      {left : World Memory} {before : Memory} (taken : last ++ [.proceed id] <+: actions)
      (hears : Hears id asked.query.script unit answer moment left last)
      (rearmed : Rearmed (run last).memory before) (free : before.clash? unit = none)
      (published : (run (last ++ [.proceed id])).memory = before.publish unit) :
      Single id asked actions (.ended (.ok answer))
  | stops {error : StoreError} (stops : Stops error) :
      Single id asked actions (.ended (.error error))
  | refuses {error : StoreError} (refused : Refused asked.query.script error actions) :
      Single id asked actions (.ended (.error error))
  | clashes {unit : UnitId} {answer : asked.Answer} {moment last : List Action}
      {left : World Memory} {error : StoreError} (reached : last <+: actions)
      (hears : Hears id asked.query.script unit answer moment left last)
      (clashes : Clashes (run last).memory unit error) :
      Single id asked actions (.ended (.error error))
  | dropped : Single id asked actions .dropped

theorem Hears.onwards {α : Type} {script : Script α} {answer : α} {moment : List Action}
    {left : World Memory} {now : List Action} (hears : Hears id script unit answer moment left now)
    (action : Action)
    (kept : (run (now ++ [action])).memory.units unit = (run now).memory.units unit) :
    Hears id script unit answer moment left (now ++ [action]) where
  taken := hears.taken.trans (List.prefix_append _ _)
  present := hears.present
  blank := hears.blank
  answers := hears.answers
  kept := kept.trans hears.kept

theorem Refused.onwards {α : Type} {script : Script α} {cause : StoreError}
    (refused : Refused script cause actions) (action : Action) :
    Refused script cause (actions ++ [action]) := by
  obtain ⟨moment, unit, reached, blank, refuses⟩ := refused
  exact ⟨moment, unit, reached.trans (List.prefix_append _ _), blank, refuses⟩

/-- What others do leaves an inquiry where it is, as long as they leave its unit alone. -/
theorem Single.rests (single : Single id asked actions course) (action : Action)
    (kept : ∀ unit, course.unit? Query.Phase.unit? = some unit →
      (run (actions ++ [action])).memory.units unit = (run actions).memory.units unit) :
    Single id asked (actions ++ [action]) course := by
  have later := List.prefix_append actions [action]
  cases single with
  | opening => exact .opening
  | asking script blank => exact .asking script ((kept _ rfl).trans blank)
  | committing hears => exact .committing (hears.onwards action (kept _ rfl))
  | undoing refused => exact .undoing (refused.onwards action)
  | succeeds taken hears rearmed free published =>
      exact .succeeds (taken.trans later) hears rearmed free published
  | stops stops => exact .stops stops
  | refuses refused => exact .refuses (refused.onwards action)
  | clashes reached hears clashes => exact .clashes (reached.trans later) hears clashes
  | dropped => exact .dropped

/-- A failure in the next step has the cause that the phase has for it. -/
private theorem Single.fails {error : StoreError}
    (single : Single id asked actions (.running phase)) (action : Action)
    (fails : Query.Fails (run actions).world phase error) :
    Single id asked (actions ++ [action]) (.ended (.error error)) := by
  cases fails with
  | opening stops => exact .stops stops
  | committing refused =>
      rcases refused with stops | clashes
      · exact .stops stops
      · cases single with
        | committing hears => exact .clashes (List.prefix_append _ _) hears clashes
  | undoing =>
      cases single with
      | undoing refused => exact .refuses (refused.onwards action)

private theorem isSingle_script (isSingle : asked.query.script.IsSingle) :
    ∃ request next, asked.query.script = .ask request next := by
  generalize asked.query.script = script at isSingle
  cases script with
  | done answer => cases isSingle
  | ask request next => exact ⟨request, next, rfl⟩

private theorem Single.answered {request : Request} {next : request.Reply → Script asked.Answer}
    {reply : request.Reply} {progress : Progress} {left : World Memory}
    (isSingle : asked.query.script.IsSingle) (present : (run actions).clients id ≠ none)
    (script : asked.query.script = .ask request next)
    (blank : (run actions).memory.units unit = some .empty)
    (tried : Memory.tryAsk unit request progress (run actions).world = (.ready (.ok reply), left))
    (after : (run (actions ++ [.proceed id])).memory = left.store) :
    Single id asked (actions ++ [.proceed id])
      (.running (Query.proceed Memory.store unit (next reply))) := by
  rw [script] at isSingle
  obtain ⟨answer, done⟩ := isSingle reply
  rw [done]
  refine .committing ⟨List.prefix_rfl, present, blank, ?_,
    congrFun (congrArg Memory.units after) unit⟩
  rw [script]
  exact ⟨progress, reply, tried, done⟩

theorem Single.step (isSingle : asked.query.script.IsSingle)
    (present : (run actions).clients id ≠ none) (single : Single id asked actions (.running phase))
    (world : (run (actions ++ [.proceed id])).world =
      (asked.query.step Memory.store phase (run actions).world).2) :
    Single id asked (actions ++ [.proceed id])
      (.ofTurn (asked.query.step Memory.store phase (run actions).world).1) := by
  have move := asked.query.step_move phase (run actions).world
  have fails : ∀ error, (asked.query.step Memory.store phase (run actions).world).1 =
    .ends (.error error) →
      Query.Fails (run actions).world phase error := fun error ends => Query.step_fails ends
  have memory : (run (actions ++ [.proceed id])).memory =
      (asked.query.step Memory.store phase (run actions).world).2.store :=
    congrArg World.store world
  rw [← memory] at move
  generalize (asked.query.step Memory.store phase (run actions).world).1 = turn at move fails
  generalize after : (run (actions ++ [.proceed id])).memory = left at move
  have kept : Rearmed (run actions).memory left → ∀ unit,
      (run (actions ++ [.proceed id])).memory.units unit = (run actions).memory.units unit := by
    intro rearmed unit
    rw [after, rearmed.units]
  cases move with
  | keepsOpening opening => exact .opening
  | opens opening =>
      obtain ⟨request, next, script⟩ := isSingle_script isSingle
      have proceeds : ∀ unit, Query.proceed Memory.store unit asked.query.script =
          .asking unit request next .fresh := by
        intro unit
        rw [script]
        rfl
      cases opening with
      | opens rearmed =>
          rw [proceeds]
          refine .asking script ?_
          rw [after]
          exact assign_same _ _ _
  | failsToOpen opening => exact single.fails _ (fails _ rfl)
  | keepsAsking tried =>
      cases single with
      | asking script blank =>
          refine .asking script ?_
          rw [after, Memory.units_of_waiting tried]
          exact blank
  | hears tried =>
      cases single with
      | asking script blank => exact Single.answered isSingle present script blank tried after
  | fails tried =>
      cases single with
      | asking script blank =>
          refine .undoing ⟨actions, _, List.prefix_append _ _, blank, ?_⟩
          rw [script]
          exact ⟨_, congrArg Prod.fst tried⟩
  | keepsCommitting rearmed =>
      cases single with
      | committing hears => exact .committing (hears.onwards _ (kept rearmed _))
  | commits ended =>
      cases single with
      | committing hears =>
          cases ended with
          | discards rearmed unpublished => exact absurd rfl (unpublished rfl)
          | publishes rearmed free => exact .succeeds List.prefix_rfl hears rearmed free after
  | failsToCommit ended => exact single.fails _ (fails _ rfl)
  | keepsUndoing rearmed =>
      cases single with
      | undoing refused => exact .undoing (refused.onwards _)
  | undoes ended => exact single.fails _ (fails _ rfl)

theorem single_run (isSingle : asked.query.script.IsSingle)
    (known : (run actions).clients id = some (.inquiry asked course)) :
    Single id asked actions course := by
  refine inquiry_run (motive := Single id asked) (fun _ => .opening) ?_ (fun _ => .dropped) ?_ known
  · intro actions phase present single world
    exact single.step isSingle (ne_of_eq_of_ne present (Option.some_ne_none _)) world
  · intro actions action course one two _ single effect apart
    exact single.rests action fun unit has =>
      effect.units_other (apart unit has).1 (apart unit has).2

end Shared

end Passbook
