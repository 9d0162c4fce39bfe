import Passbook.Proofs.Memory.Outcome
import Passbook.Proofs.Shared.State

/-!
What one step can do of a call other than a posting, and of a unit of work in the hands of a caller:
one case for each way on from each phase, with the store call that the step tried.
-/

set_option autoImplicit false

namespace Passbook.Memory

variable {unit : UnitId} {progress next : Progress} {world left : World Memory}

/-- While the end of a unit is waited for, only the orders for failures and delays can change. -/
theorem rearmed_of_waiting {ending : Ending}
    (tried : store.tryFinish unit ending progress world = (.waiting next, left)) :
    Rearmed world.store left.store := by
  cases ending with
  | commit =>
      have committing := tryCommit_committing unit progress world
      rw [show tryCommit unit progress world = (.waiting next, left) from tried] at committing
      exact committing.rearmed
  | rollback =>
      have rollingBack := tryRollback_rollingBack unit progress world
      rw [show tryRollback unit progress world = (.waiting next, left) from tried] at rollingBack
      exact rollingBack.rearmed

/-- What is left by the end of a unit: it is discarded, or, if it was to be committed, published. -/
inductive Ended (unit : UnitId) (memory : Memory) : Ending → Except StoreError Unit → Memory → Prop
  | discards {ending : Ending} {result : Except StoreError Unit} {before : Memory}
      (rearmed : Rearmed memory before) (unpublished : ending = .commit → result ≠ .ok ()) :
      Ended unit memory ending result (before.discard unit)
  | publishes {before : Memory} (rearmed : Rearmed memory before)
      (free : before.clash? unit = none) :
      Ended unit memory .commit (.ok ()) (before.publish unit)

theorem ended_of_ready {ending : Ending} {result : Except StoreError Unit}
    (tried : store.tryFinish unit ending progress world = (.ready result, left)) :
    Ended unit world.store ending result left.store := by
  cases ending with
  | commit =>
      have committing := tryCommit_committing unit progress world
      rw [show tryCommit unit progress world = (.ready result, left) from tried] at committing
      generalize left.store = after at committing
      cases committing with
      | fails error rearmed => exact .discards rearmed fun _ => by simp
      | commits rearmed free => exact .publishes rearmed free
  | rollback =>
      have rollingBack := tryRollback_rollingBack unit progress world
      rw [show tryRollback unit progress world = (.ready result, left) from tried] at rollingBack
      generalize left.store = after at rollingBack
      cases rollingBack with
      | rollsBack _ rearmed => exact .discards rearmed fun isCommit => by cases isCommit

end Passbook.Memory

namespace Passbook.Query

open Memory (Progress)

/-- What one step of a query can do. -/
inductive Move {α : Type} (query : Query α) (world : World Memory) :
    Phase UnitId Progress α → Turn (Phase UnitId Progress α) (Result α) → Memory → Prop
  | keepsOpening {progress next : Progress} {after : Memory}
      (opening : Memory.Opening world.store (.waiting next) after) :
      Move query world (.opening progress) (.rests (.opening next)) after
  | opens {progress : Progress} {unit : UnitId} {after : Memory}
      (opening : Memory.Opening world.store (.ready (.ok unit)) after) :
      Move query world (.opening progress)
        (.proceeds (proceed Memory.store unit query.script)) after
  | failsToOpen {progress : Progress} {error : StoreError} {after : Memory}
      (opening : Memory.Opening world.store (.ready (.error error)) after) :
      Move query world (.opening progress) (.ends (.error error)) after
  | keepsAsking {unit : UnitId} {request : Request} {script : request.Reply → Script α}
      {progress next : Progress} {left : World Memory}
      (tried : Memory.tryAsk unit request progress world = (.waiting next, left)) :
      Move query world (.asking unit request script progress)
        (.rests (.asking unit request script next)) left.store
  | hears {unit : UnitId} {request : Request} {script : request.Reply → Script α}
      {progress : Progress} {reply : request.Reply} {left : World Memory}
      (tried : Memory.tryAsk unit request progress world = (.ready (.ok reply), left)) :
      Move query world (.asking unit request script progress)
        (.proceeds (proceed Memory.store unit (script reply))) left.store
  | fails {unit : UnitId} {request : Request} {script : request.Reply → Script α}
      {progress : Progress} {error : StoreError} {left : World Memory}
      (tried : Memory.tryAsk unit request progress world = (.ready (.error error), left)) :
      Move query world (.asking unit request script progress)
        (.proceeds (.undoing unit error .fresh)) left.store
  | keepsCommitting {unit : UnitId} {answer : α} {progress next : Progress} {after : Memory}
      (rearmed : Memory.Rearmed world.store after) :
      Move query world (.committing unit answer progress)
        (.rests (.committing unit answer next)) after
  | commits {unit : UnitId} {answer : α} {progress : Progress} {after : Memory}
      (ended : Memory.Ended unit world.store .commit (.ok ()) after) :
      Move query world (.committing unit answer progress) (.ends (.ok answer)) after
  | failsToCommit {unit : UnitId} {answer : α} {progress : Progress} {error : StoreError}
      {after : Memory} (ended : Memory.Ended unit world.store .commit (.error error) after) :
      Move query world (.committing unit answer progress) (.ends (.error error)) after
  | keepsUndoing {unit : UnitId} {cause : StoreError} {progress next : Progress} {after : Memory}
      (rearmed : Memory.Rearmed world.store after) :
      Move query world (.undoing unit cause progress) (.rests (.undoing unit cause next)) after
  | undoes {unit : UnitId} {cause : StoreError} {progress : Progress}
      {result : Except StoreError Unit} {after : Memory}
      (ended : Memory.Ended unit world.store .rollback result after) :
      Move query world (.undoing unit cause progress) (.ends (.error cause)) after

variable {α : Type}

/-- Telling the caller of a query its result does nothing to the ledger. -/
private theorem finish_move (query : Query α) {phase : Phase UnitId Progress α} {result : Result α}
    {world left : World Memory} (ends : Move query world phase (.ends result) left.store) :
    Move query world phase (query.finish result left).1
      (query.finish (υ := UnitId) (π := Progress) result left).2.store := by
  cases result with
  | ok answer => exact ends
  | error error =>
      simp only [finish]
      split <;> exact ends

theorem step_move (query : Query α) (phase : Phase UnitId Progress α) (world : World Memory) :
    Move query world phase (query.step Memory.store phase world).1
      (query.step Memory.store phase world).2.store := by
  cases phase with
  | opening progress =>
      simp only [step]
      have opening := Memory.tryOpenBy_opening query.deadline progress world
      generalize Memory.store.tryOpenBy query.deadline progress world = attempt at opening
      rcases attempt with ⟨next | error | unit, left⟩
      · exact .keepsOpening opening
      · exact query.finish_move (.failsToOpen opening)
      · exact .opens opening
  | asking unit request script progress =>
      simp only [step]
      rcases tried : Memory.store.tryAsk unit request progress world
        with ⟨next | error | reply, left⟩
      · exact .keepsAsking tried
      · exact .fails tried
      · exact .hears tried
  | committing unit answer progress =>
      simp only [step]
      rcases tried : Memory.store.tryFinish unit .commit progress world
        with ⟨next | error | done, left⟩
      · exact .keepsCommitting (Memory.rearmed_of_waiting tried)
      · exact query.finish_move (.failsToCommit (Memory.ended_of_ready tried))
      · exact query.finish_move (.commits (Memory.ended_of_ready tried))
  | undoing unit cause progress =>
      simp only [step]
      rcases tried : Memory.store.tryFinish unit .rollback progress world
        with ⟨next | error | done, left⟩
      · exact .keepsUndoing (Memory.rearmed_of_waiting tried)
      · have undone :
            Move query world (.undoing unit cause progress) (.ends (.error cause)) left.store :=
          .undoes (Memory.ended_of_ready tried)
        exact query.finish_move undone
      · exact query.finish_move (.undoes (Memory.ended_of_ready tried))

end Passbook.Query

namespace Passbook.Shared

open Memory (Progress)

/-- What one step of a unit in the hands of a caller can do. -/
inductive Hand.Move (world : World Memory) : Hand → Course Hand Hand.Result → Memory → Prop
  | keepsOpening {deadline : Deadline} {progress next : Progress} {after : Memory}
      (opening : Memory.Opening world.store (.waiting next) after) :
      Move world (.opening deadline progress) (.running (.opening deadline next)) after
  | opens {deadline : Deadline} {progress : Progress} {unit : UnitId} {after : Memory}
      (opening : Memory.Opening world.store (.ready (.ok unit)) after) :
      Move world (.opening deadline progress) (.running (.idle unit none)) after
  | failsToOpen {deadline : Deadline} {progress : Progress} {error : StoreError} {after : Memory}
      (opening : Memory.Opening world.store (.ready (.error error)) after) :
      Move world (.opening deadline progress) (.ended (.error error)) after
  | idles {unit : UnitId} {last : Option ((request : Request) × Except StoreError request.Reply)} :
      Move world (.idle unit last) (.running (.idle unit last)) world.store
  | keepsAsking {unit : UnitId} {request : Request} {progress next : Progress} {left : World Memory}
      (tried : Memory.tryAsk unit request progress world = (.waiting next, left)) :
      Move world (.asking unit request progress) (.running (.asking unit request next)) left.store
  | hears {unit : UnitId} {request : Request} {progress : Progress}
      {reply : Except StoreError request.Reply} {left : World Memory}
      (tried : Memory.tryAsk unit request progress world = (.ready reply, left)) :
      Move world (.asking unit request progress) (.running (.idle unit (some ⟨request, reply⟩)))
        left.store
  | keepsFinishing {unit : UnitId} {ending : Ending} {progress next : Progress} {after : Memory}
      (rearmed : Memory.Rearmed world.store after) :
      Move world (.finishing unit ending progress) (.running (.finishing unit ending next)) after
  | finishes {unit : UnitId} {ending : Ending} {progress : Progress}
      {result : Except StoreError Unit} {after : Memory}
      (ended : Memory.Ended unit world.store ending result after) :
      Move world (.finishing unit ending progress) (.ended result) after

theorem Hand.step_move (hand : Hand) (world : World Memory) :
    Move world hand (hand.step world).1 (hand.step world).2.store := by
  cases hand with
  | opening deadline progress =>
      simp only [step]
      have opening := Memory.tryOpenBy_opening deadline progress world
      generalize Memory.store.tryOpenBy deadline progress world = attempt at opening
      rcases attempt with ⟨next | error | unit, left⟩
      · exact .keepsOpening opening
      · exact .failsToOpen opening
      · exact .opens opening
  | idle unit last => exact .idles
  | asking unit request progress =>
      simp only [step]
      rcases tried : Memory.store.tryAsk unit request progress world with ⟨next | reply, left⟩
      · exact .keepsAsking tried
      · exact .hears tried
  | finishing unit ending progress =>
      simp only [step]
      rcases tried : Memory.store.tryFinish unit ending progress world with ⟨next | result, left⟩
      · exact .keepsFinishing (Memory.rearmed_of_waiting tried)
      · exact .finishes (Memory.ended_of_ready tried)

/-- What a client is that is a unit in the hands of a caller after its step. -/
theorem hand_of_proceed {client : Client} {next : Hand} {world : World Memory}
    (now : (client.proceed world).1 = .hand (.running next)) :
    ∃ hand, client = .hand (.running hand) ∧
      hand.Move world (.running next) (client.proceed world).2.store := by
  cases client with
  | posting wanted course => cases course <;> cases now
  | inquiry asked course => cases course <;> cases now
  | hand course =>
      cases course with
      | running hand =>
          have stepped : (hand.step world).1 = .running next := Client.hand.inj now
          have move := hand.step_move world
          rw [stepped] at move
          exact ⟨hand, rfl, move⟩
      | ended result => cases now
      | dropped => cases now

theorem hand_of_giveUp {client : Client} {next : Hand} {world : World Memory}
    (now : (client.giveUp world).1 = .hand (.running next)) :
    ∃ hand, client = .hand (.running hand) ∧ (hand.giveUp world).1 = .running next ∧
      (client.giveUp world).2 = (hand.giveUp world).2 := by
  cases client with
  | posting wanted course => cases course <;> cases now
  | inquiry asked course => cases course <;> cases now
  | hand course =>
      cases course with
      | running hand => exact ⟨hand, rfl, Client.hand.inj now, rfl⟩
      | ended result => cases now
      | dropped => cases now

end Passbook.Shared
