import Passbook.Proofs.Shared.Fate

/-!
Inquiries in the course of a run. An inquiry arrives, takes its steps, and is answered or given up;
what others do in between leaves its unit of work alone. A client that has arrived never goes away,
and one that is over stays as it is.
-/

set_option autoImplicit false

namespace Passbook.Shared

open Memory (Progress)

variable {state : State} {id : ClientId} {client : Client} {earlier : List Action}

theorem present_onwards (present : (run earlier).clients id ≠ none) (later : List Action) :
    (run (earlier ++ later)).clients id ≠ none := by
  refine perform_onwards (fun state => state.clients id ≠ none) present ?_ later
  intro state owned present action
  obtain ⟨client, known⟩ := Option.ne_none_iff_exists'.mp present
  cases perform_fate owned known action with
  | spared same effect apart owner => simp [same]
  | proceeds now world => simp [now]
  | givesUp now world => simp [now]
  | asks idle now world => simp [now]
  | finishes idle now world => simp [now]

theorem settled_onwards (known : (run earlier).clients id = some client)
    (isOver : client.isOver = true) (later : List Action) :
    (run (earlier ++ later)).clients id = some client := by
  refine perform_onwards (fun state => state.clients id = some client) known ?_ later
  intro state owned known action
  cases perform_fate owned known action with
  | spared same effect apart owner => exact same
  | proceeds now world =>
      rw [Client.proceed_of_isOver isOver] at now
      exact now
  | givesUp now world =>
      rw [Client.giveUp_of_isOver isOver] at now
      exact now
  | asks idle now world =>
      subst idle
      cases isOver
  | finishes idle now world =>
      subst idle
      cases isOver

/-!
## One inquiry
-/

variable {asked : Inquiry}
  {course : Course (Query.Phase UnitId Progress asked.Answer) (Query.Result asked.Answer)}

/-- Where an inquiry has come from by a step of its own. -/
private theorem inquiry_of_proceed {world : World Memory}
    (now : (client.proceed world).1 = .inquiry asked course) :
    (∃ phase, client = .inquiry asked (.running phase) ∧
      course = .ofTurn (asked.query.step Memory.store phase world).1 ∧
        (client.proceed world).2 = (asked.query.step Memory.store phase world).2) ∨
      (client = .inquiry asked course ∧ (client.proceed world).2 = world) := by
  cases client with
  | posting wanted course => cases course <;> cases now
  | hand course => cases course <;> cases now
  | inquiry inquiry before =>
      cases before with
      | running phase =>
          cases now
          exact .inl ⟨phase, rfl, rfl, rfl⟩
      | ended result =>
          cases now
          exact .inr ⟨rfl, rfl⟩
      | dropped =>
          cases now
          exact .inr ⟨rfl, rfl⟩

private theorem inquiry_of_giveUp {world : World Memory}
    (now : (client.giveUp world).1 = .inquiry asked course) :
    course = .dropped ∨ (client = .inquiry asked course ∧ (client.giveUp world).2 = world) := by
  cases client with
  | posting wanted course => cases course <;> cases now
  | hand course => cases course <;> cases now
  | inquiry inquiry before =>
      cases before with
      | running phase =>
          cases now
          exact .inl rfl
      | ended result =>
          cases now
          exact .inr ⟨rfl, rfl⟩
      | dropped =>
          cases now
          exact .inr ⟨rfl, rfl⟩

/-- What holds of an inquiry when it arrives, after each of its steps, when it is dropped, and after
whatever others do, holds of it in every run. -/
theorem inquiry_run
    {motive : List Action →
      Course (Query.Phase UnitId Progress asked.Answer) (Query.Result asked.Answer) → Prop}
    (starts : ∀ actions, motive actions (.running (.opening .fresh)))
    (steps : ∀ actions phase, (run actions).clients id = some (.inquiry asked (.running phase)) →
      motive actions (.running phase) → (run (actions ++ [.proceed id])).world =
      (asked.query.step Memory.store phase (run actions).world).2 →
      motive (actions ++ [.proceed id])
      (.ofTurn (asked.query.step Memory.store phase (run actions).world).1))
    (drops : ∀ actions, motive actions .dropped)
    (rests : ∀ actions action course one two, (run actions).clients id =
      some (.inquiry asked course) → motive actions course →
      Effect (run actions).memory one two (run (actions ++ [action])).memory →
      (∀ unit, course.unit? Query.Phase.unit? = some unit → one ≠ some unit ∧ two ≠ some unit) →
      motive (actions ++ [action]) course)
    {actions : List Action} (known : (run actions).clients id = some (.inquiry asked course)) :
    motive actions course := by
  refine client_run (motive := fun actions client => ∀ course, client = .inquiry asked course →
    motive actions course) ?_ ?_ ?_ ?_ known course rfl
  · rintro _ _ _ ⟨⟩
  · rintro actions _ _ ⟨⟩
    exact starts actions
  · rintro _ _ _ ⟨⟩
  · rintro actions action client _ before holds fate known course rfl
    have unmoved : (run actions).clients id = some (.inquiry asked course) → motive actions course →
        (run (actions ++ [action])).world = (run actions).world →
          motive (actions ++ [action]) course := by
      intro before holds same
      refine rests actions action course none none before holds ?_ fun unit _ => ⟨by simp, by simp⟩
      simp only [State.memory, same]
      exact .idles (.refl _)
    cases fate with
    | spared same effect apart owner =>
        cases same.symm.trans known
        exact rests actions action course _ _ before (holds course rfl) effect apart
    | proceeds now world =>
        rcases inquiry_of_proceed (Option.some.inj (now.symm.trans known))
          with ⟨phase, rfl, rfl, left⟩ | ⟨rfl, left⟩
        · exact steps actions phase before (holds _ rfl) (world.trans left)
        · exact unmoved before (holds course rfl) (world.trans left)
    | givesUp now world =>
        rcases inquiry_of_giveUp (Option.some.inj (now.symm.trans known)) with rfl | ⟨rfl, left⟩
        · exact drops _
        · exact unmoved before (holds course rfl) (world.trans left)
    | asks was now world => cases now.symm.trans known
    | finishes was now world => cases now.symm.trans known

end Passbook.Shared
