import Passbook.Proofs.Calls.Traced

/-!
What can become of a posting. Steps of the posting alternate with changes of the surroundings, of
which only the trace of the posting's own calls is exempt: the clock, the tokens and the state of
the store may be anything at any moment, so that no store and no interruption is left out. At any
moment the caller may also give the posting up.
-/

set_option autoImplicit false

namespace Passbook.Calls

variable {σ υ π : Type}

/-- How far a posting has come. -/
inductive Standing (υ π : Type)
  | runs (phase : Posting.Phase υ (Option π))
  | ended (result : Posting.Result)
  | abandoned

def Standing.ofTurn : Turn (Posting.Phase υ (Option π)) Posting.Result → Standing υ π
  | .rests phase => .runs phase
  | .proceeds phase => .runs phase
  | .ends result => .ended result

def Standing.ofPoll : Poll (Posting.Phase υ (Option π)) Posting.Result → Standing υ π
  | .waiting phase => .runs phase
  | .ready result => .ended result

/-- Where a posting over a store can come to, and in which surroundings. -/
inductive Reaches (behind : LedgerStore σ υ π) (posting : Posting) :
    Standing υ π → World (Traced σ υ) → Prop
  | start {world : World (Traced σ υ)} (untraced : world.store.trace = []) :
      Reaches behind posting (.runs (Posting.start (Traced.store behind))) world
  | passes {standing : Standing υ π} {world after : World (Traced σ υ)}
      (reached : Reaches behind posting standing world)
      (same : after.store.trace = world.store.trace) :
      Reaches behind posting standing after
  | steps {phase : Posting.Phase υ (Option π)} {world : World (Traced σ υ)}
      (reached : Reaches behind posting (.runs phase) world) :
      Reaches behind posting (.ofTurn (posting.step (Traced.store behind) phase world).1)
        (posting.step (Traced.store behind) phase world).2
  | abandons {phase : Posting.Phase υ (Option π)} {world : World (Traced σ υ)}
      (reached : Reaches behind posting (.runs phase) world) :
      Reaches behind posting .abandoned (posting.giveUp (Traced.store behind) phase world)

theorem Reaches.tries {behind : LedgerStore σ υ π} {posting : Posting}
    {phase : Posting.Phase υ (Option π)} {world : World (Traced σ υ)}
    (reached : Reaches behind posting (.runs phase) world) :
    Reaches behind posting (.ofPoll (posting.tryPost (Traced.store behind) phase world).1)
      (posting.tryPost (Traced.store behind) phase world).2 := by
  unfold Posting.tryPost
  generalize 7 = steps
  induction steps generalizing phase world with
  | zero => exact reached
  | succ steps ih =>
      have stepped := reached.steps
      simp only [settle]
      rcases taken : posting.step (Traced.store behind) phase world
        with ⟨next | next | result, after⟩
      · rw [taken] at stepped
        exact stepped
      · rw [taken] at stepped
        exact ih stepped
      · rw [taken] at stepped
        exact stepped

/-- What holds at the start of a posting, whatever has happened around it, and after each of its
steps, holds wherever it comes to. -/
theorem Reaches.keeps {behind : LedgerStore σ υ π} {posting : Posting} {standing : Standing υ π}
    {world : World (Traced σ υ)} (holds : Standing υ π → List (Event υ) → Prop)
    (start : holds (.runs (Posting.start (Traced.store behind))) [])
    (step : ∀ (phase : Posting.Phase υ (Option π)) (world : World (Traced σ υ)),
      holds (.runs phase) world.store.trace →
        holds (.ofTurn (posting.step (Traced.store behind) phase world).1)
          (posting.step (Traced.store behind) phase world).2.store.trace)
    (abandon : ∀ (phase : Posting.Phase υ (Option π)) (world : World (Traced σ υ)),
      holds (.runs phase) world.store.trace →
        holds .abandoned (posting.giveUp (Traced.store behind) phase world).store.trace)
    (reached : Reaches behind posting standing world) : holds standing world.store.trace := by
  induction reached with
  | start untraced =>
      rw [untraced]
      exact start
  | passes _ same ih =>
      rw [same]
      exact ih
  | steps _ ih => exact step _ _ ih
  | abandons _ ih => exact abandon _ _ ih

end Passbook.Calls
