import Passbook.Call.Posting
import Passbook.Call.Query
import Passbook.Proofs.Memory.Veil

/-!
Calls over ledgers with their password hashes covered. A posting reads no hash at all. A query may
carry one, in what it registers and in what it answers; it takes the same steps with the hash
covered, and reports the same events.
-/

set_option autoImplicit false

namespace Passbook

open Memory (Progress cover covered)

/-- What a step has come to, with the hashes of the ledger covered. -/
def coverStep {τ : Type} (step : τ × World Memory) : τ × World Memory := (step.1, cover step.2)

/-- What two calls side by side make of a turn: they go on side by side, or they end with results
that a change makes equal. -/
inductive Turn.Beside {κ ρ : Type} (calls : κ → κ → Prop)
    (change : ρ → ρ) : Turn κ ρ → Turn κ ρ → Prop
  | rests {call twin : κ} (beside : calls call twin) :
      Beside calls change (.rests call) (.rests twin)
  | proceeds {call twin : κ} (beside : calls call twin) :
      Beside calls change (.proceeds call) (.proceeds twin)
  | ends (result : ρ) : Beside calls change (.ends result) (.ends (change result))

/-- Two steps side by side, the second one with the hashes of the ledger covered. -/
structure StepsBeside {κ ρ : Type} (calls : κ → κ → Prop) (change : ρ → ρ)
    (step twin : Turn κ ρ × World Memory) : Prop where
  turns : step.1.Beside calls change twin.1
  worlds : twin.2 = cover step.2

/-!
## Postings
-/

namespace Posting

@[simp] theorem interruption_cover (context : CallContext) (world : World Memory) :
    context.interruption (cover world) = context.interruption world := rfl

variable {α β : Type} {posting : Posting} {world : World Memory}

private theorem guarded_veiled {change : α → β} {giveUp other : World Memory → World Memory}
    {call : World Memory → Poll Progress (Except StoreError α) × World Memory}
    {twin : World Memory → Poll Progress (Except StoreError β) × World Memory} (stage : Stage)
    (given : other (cover world) = cover (giveUp world))
    (called : twin (cover world) = covered change (call world)) :
    posting.guarded stage other twin (cover world) =
      covered change (posting.guarded stage giveUp call world) := by
  unfold guarded
  rw [interruption_cover]
  cases posting.context.interruption world with
  | some interruption => simp only [covered, given, Except.map]
  | none =>
      simp only [called]
      rcases call world with ⟨later | error | reply, left⟩ <;> rfl

private theorem guardedAsk_veiled (stage : Stage) (unit : UnitId) (request : Request)
    (progress : Progress) :
    guardedAsk Memory.store posting stage unit request.veiled progress (cover world) =
      covered request.veilReply
        (guardedAsk Memory.store posting stage unit request progress world) :=
  guarded_veiled stage (Memory.withdraw_veiled unit request progress world)
    (Memory.tryAsk_veiled unit request progress world)

private theorem finish_veiled (result : Result) (world : World Memory) :
    finish (υ := UnitId) (π := Progress) result (cover world) =
      coverStep (finish result world) := by
  cases result <;> rfl

private theorem abort_veiled (unit : UnitId) (cause : PostingError) (world : World Memory) :
    abort Memory.store unit cause (cover world) =
      coverStep (abort Memory.store unit cause world) := by
  unfold abort
  cases cause.isInterruption with
  | true =>
      have dropped :=
        Memory.drop_veiled unit
          (world.report (.of .debug "dropping interrupted unit" [("cause", cause.message)]))
      simp only [if_true]
      rw [← finish_veiled, ← dropped]
      rfl
  | false => rfl

private theorem judge_veiled (unit : UnitId) (account : Account) (world : World Memory) :
    judge Memory.store posting unit account.veiled (cover world) =
      coverStep (judge Memory.store posting unit account world) := by
  unfold judge
  rw [show account.veiled.balance = account.balance from rfl]
  cases post account.balance posting.kind posting.amount with
  | ok balance => rfl
  | error refusal => exact abort_veiled unit _ (world.report (lockedEvent account))

private theorem decideCommit_veiled (unit : UnitId) (receipt : Receipt) (world : World Memory) :
    decideCommit Memory.store posting unit receipt (cover world) =
      coverStep (decideCommit Memory.store posting unit receipt world) := by
  unfold decideCommit
  rw [interruption_cover]
  cases posting.context.interruption world with
  | some interruption => exact abort_veiled unit _ world
  | none => rfl

/-- A posting takes the same step with the hashes of the ledger covered. -/
theorem step_veiled (posting : Posting) (phase : Phase UnitId Progress) (world : World Memory) :
    posting.step Memory.store phase (cover world) =
      coverStep (posting.step Memory.store phase world) := by
  cases phase with
  | opening progress =>
      have opened :
        posting.guarded .idle id (Memory.store.tryOpenBy posting.context.deadline progress)
          (cover world) =
          covered id (posting.guarded .idle id
            (Memory.store.tryOpenBy posting.context.deadline progress) world) :=
        guarded_veiled .idle rfl (Memory.tryOpenBy_veiled posting.context.deadline progress world)
      simp only [step, opened]
      rcases posting.guarded .idle id (Memory.store.tryOpenBy posting.context.deadline progress)
        world with ⟨later | error | unit, left⟩
      · rfl
      · exact finish_veiled _ left
      · rfl
  | locking unit progress =>
      have asked : guardedAsk Memory.store posting .idle unit posting.lockRequest
        progress (cover world) =
          covered (Option.map Account.veiled)
            (guardedAsk Memory.store posting .idle unit posting.lockRequest progress world) :=
        guardedAsk_veiled .idle unit posting.lockRequest progress
      simp only [step, asked]
      rcases guardedAsk Memory.store posting .idle unit posting.lockRequest progress world
        with ⟨later | error | _ | account, left⟩
      · rfl
      · exact abort_veiled unit error left
      · exact abort_veiled unit _ left
      · exact judge_veiled unit account left
  | writing unit balance progress =>
      have asked : guardedAsk Memory.store posting .validated unit (posting.balanceRequest balance)
        progress (cover world) =
          covered id (guardedAsk Memory.store posting .validated unit
            (posting.balanceRequest balance) progress world) :=
        guardedAsk_veiled .validated unit (posting.balanceRequest balance) progress
      simp only [step, asked]
      rcases guardedAsk Memory.store posting .validated unit
        (posting.balanceRequest balance) progress world with
        ⟨later | error | ⟨⟩, left⟩
      · rfl
      · exact abort_veiled unit error left
      · rfl
  | appending unit balance progress =>
      have asked : guardedAsk Memory.store posting .mutated unit posting.entryRequest
        progress (cover world) =
          covered id (guardedAsk Memory.store posting .mutated unit
            posting.entryRequest progress world) :=
        guardedAsk_veiled .mutated unit posting.entryRequest progress
      simp only [step, asked]
      rcases guardedAsk Memory.store posting .mutated unit posting.entryRequest progress world
        with ⟨later | error | entry, left⟩
      · rfl
      · exact abort_veiled unit error left
      · exact decideCommit_veiled unit _ left
  | committing unit receipt progress =>
      have finished : Memory.store.tryFinish unit .commit progress (cover world) =
          covered id (Memory.store.tryFinish unit .commit progress world) :=
            Memory.tryFinish_veiled unit .commit progress world
      simp only [step, finished]
      rcases Memory.store.tryFinish unit .commit progress world with ⟨later | error | ⟨⟩, left⟩
      · rfl
      · exact finish_veiled _ left
      · exact finish_veiled _ left
  | undoing unit cause progress =>
      have finished : Memory.store.tryFinish unit .rollback progress (cover world) =
          covered id (Memory.store.tryFinish unit .rollback progress world) :=
            Memory.tryFinish_veiled unit .rollback progress world
      simp only [step, finished]
      rcases Memory.store.tryFinish unit .rollback progress world with ⟨later | error | ⟨⟩, left⟩
      · rfl
      · exact finish_veiled _ (left.report _)
      · exact finish_veiled _ left

theorem step_beside (posting : Posting) (phase : Phase UnitId Progress) (world : World Memory) :
    StepsBeside Eq id (posting.step Memory.store phase world)
      (posting.step Memory.store phase (cover world)) := by
  rw [step_veiled]
  rcases posting.step Memory.store phase world with ⟨later | later | result, left⟩
  · exact ⟨.rests rfl, rfl⟩
  · exact ⟨.proceeds rfl, rfl⟩
  · exact ⟨.ends result, rfl⟩

theorem giveUp_veiled (posting : Posting) (phase : Phase UnitId Progress) (world : World Memory) :
    posting.giveUp Memory.store phase (cover world) =
      cover (posting.giveUp Memory.store phase world) := by
  cases phase with
  | opening progress => rfl
  | locking unit progress =>
      exact Memory.drop_withdraw_veiled unit posting.lockRequest progress world
  | writing unit balance progress =>
      exact Memory.drop_withdraw_veiled unit (posting.balanceRequest balance) progress world
  | appending unit balance progress =>
      exact Memory.drop_withdraw_veiled unit posting.entryRequest progress world
  | committing unit receipt progress => exact Memory.drop_veiled unit world
  | undoing unit cause progress => exact Memory.drop_veiled unit world

end Posting

/-!
## Queries
-/

/-- Whether one script is the other with the hashes covered, whatever the replies. -/
inductive Script.Veils {α : Type} (veil : α → α) : Script α → Script α → Prop
  | done (answer : α) : Veils veil (.done answer) (.done (veil answer))
  | ask {request : Request} {next : request.Reply → Script α}
      {twin : request.veiled.Reply → Script α}
      (goesOn : ∀ reply, Veils veil (next reply) (twin (request.veilReply reply))) :
      Veils veil (.ask request next) (.ask request.veiled twin)

namespace Query

variable {α : Type} {veil : α → α} {query twin : Query α} {unit : UnitId} {world : World Memory}

/-- Whether one query is the other with the hashes covered. -/
structure Veils (veil : α → α) (query twin : Query α) : Prop where
  script : query.script.Veils veil twin.script
  deadline : twin.deadline = query.deadline
  isReported : twin.isReported = query.isReported

/-- Whether what remains of one query is what remains of the other with the hashes covered. -/
inductive Phase.Veils (veil : α → α) : Phase UnitId Progress α → Phase UnitId Progress α → Prop
  | opening (progress : Progress) : Veils veil (.opening progress) (.opening progress)
  | asking (unit : UnitId) {request : Request} {next : request.Reply → Script α}
      {twin : request.veiled.Reply → Script α} (progress : Progress)
      (goesOn : ∀ reply, (next reply).Veils veil (twin (request.veilReply reply))) :
      Veils veil (.asking unit request next progress) (.asking unit request.veiled twin progress)
  | committing (unit : UnitId) (answer : α) (progress : Progress) :
      Veils veil (.committing unit answer progress) (.committing unit (veil answer) progress)
  | undoing (unit : UnitId) (cause : StoreError) (progress : Progress) :
      Veils veil (.undoing unit cause progress) (.undoing unit cause progress)

theorem proceed_veils {script other : Script α} (veils : script.Veils veil other) :
    (proceed Memory.store unit script).Veils veil (proceed Memory.store unit other) := by
  cases veils with
  | done answer => exact .committing unit answer .fresh
  | ask goesOn => exact .asking unit .fresh goesOn

private theorem finish_beside (veils : query.Veils veil twin) (result : Result α)
    (world : World Memory) :
    StepsBeside (Phase.Veils veil) (Except.map veil) (query.finish result world)
      (twin.finish (result.map veil) (cover world)) := by
  cases result with
  | ok answer => exact ⟨.ends (Except.ok answer), rfl⟩
  | error error =>
      refine ⟨.ends (Except.error error), ?_⟩
      unfold finish
      rw [veils.isReported]
      cases query.isReported <;> rfl

/-- A query takes the same step with the hashes covered. -/
theorem step_beside {phase other : Phase UnitId Progress α} (queries : query.Veils veil twin)
    (phases : phase.Veils veil other) :
    StepsBeside (Phase.Veils veil) (Except.map veil) (query.step Memory.store phase world)
      (twin.step Memory.store other (cover world)) := by
  cases phases with
  | opening progress =>
      simp only [step, queries.deadline, Memory.tryOpenBy_veiled]
      rcases Memory.store.tryOpenBy query.deadline progress world with ⟨later | error | unit, left⟩
      · exact ⟨.rests (.opening later), rfl⟩
      · exact finish_beside queries (.error error) left
      · exact ⟨.proceeds (proceed_veils queries.script), rfl⟩
  | @asking unit request next twin progress goesOn =>
      have asked : Memory.store.tryAsk unit request.veiled progress (cover world) =
          covered request.veilReply (Memory.store.tryAsk unit request progress world) :=
            Memory.tryAsk_veiled unit request progress world
      simp only [step, asked]
      rcases Memory.store.tryAsk unit request progress world with ⟨later | error | reply, left⟩
      · exact ⟨.rests (.asking unit later goesOn), rfl⟩
      · exact ⟨.proceeds (.undoing unit error .fresh), rfl⟩
      · exact ⟨.proceeds (proceed_veils (goesOn reply)), rfl⟩
  | committing unit answer progress =>
      have finished : Memory.store.tryFinish unit .commit progress (cover world) =
          covered id (Memory.store.tryFinish unit .commit progress world) :=
            Memory.tryFinish_veiled unit .commit progress world
      simp only [step, finished]
      rcases Memory.store.tryFinish unit .commit progress world with ⟨later | error | ⟨⟩, left⟩
      · exact ⟨.rests (.committing unit answer later), rfl⟩
      · exact finish_beside queries (.error error) left
      · exact finish_beside queries (.ok answer) left
  | undoing unit cause progress =>
      have finished : Memory.store.tryFinish unit .rollback progress (cover world) =
          covered id (Memory.store.tryFinish unit .rollback progress world) :=
            Memory.tryFinish_veiled unit .rollback progress world
      simp only [step, finished]
      rcases Memory.store.tryFinish unit .rollback progress world with ⟨later | error | ⟨⟩, left⟩
      · exact ⟨.rests (.undoing unit cause later), rfl⟩
      · exact finish_beside queries (.error cause) (left.report _)
      · exact finish_beside queries (.error cause) left

theorem giveUp_veils {phase other : Phase UnitId Progress α} (phases : phase.Veils veil other)
    (world : World Memory) :
    giveUp Memory.store other (cover world) = cover (giveUp Memory.store phase world) := by
  cases phases with
  | opening progress => rfl
  | @asking unit request _ _ progress goesOn =>
      exact Memory.drop_withdraw_veiled unit request progress world
  | committing unit answer progress => exact Memory.drop_veiled unit world
  | undoing unit cause progress => exact Memory.drop_veiled unit world

/-!
## The calls of the service
-/

def veilStatement (statement : Statement) : Statement :=
  { statement with account := statement.account.veiled }

theorem create_veils (registration : Registration) (deadline : Deadline) :
    (create registration deadline).Veils Account.veiled (create registration.veiled deadline) where
  script := .ask fun account => .done account
  deadline := rfl
  isReported := rfl

theorem byId_veils (id : AccountId) (deadline : Deadline) :
    (byId id deadline).Veils (Option.map Account.veiled) (byId id deadline) where
  script := .ask fun account => .done account
  deadline := rfl
  isReported := rfl

theorem statement_veils (id : AccountId) (deadline : Deadline) :
    (statement id deadline).Veils (Option.map veilStatement) (statement id deadline) where
  script := by
    refine .ask fun found => ?_
    cases found with
    | none => exact .done none
    | some account => exact .ask fun entries => .done (some (Statement.mk account entries))
  deadline := rfl
  isReported := rfl

end Query

end Passbook
