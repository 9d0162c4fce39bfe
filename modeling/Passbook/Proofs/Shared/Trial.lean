import Passbook.Proofs.Memory.Integrity
import Passbook.Proofs.Shared.Interruption

/-!
The requests that clients try. Whatever a client is, its next step tries one request in its unit of
work, or it tries none and stages nothing. So all that units ever stage, and all that a ledger ever
hands out, comes from the requests that are tried.
-/

set_option autoImplicit false

namespace Passbook

open Memory (Progress Rearmed)

/-- A request that is tried in a unit of work. -/
structure Trial where
  unit : UnitId
  request : Request
  progress : Progress

def Posting.Phase.trial? (posting : Posting) : Posting.Phase UnitId Progress → Option Trial
  | .locking unit progress => some ⟨unit, posting.lockRequest, progress⟩
  | .writing unit balance progress => some ⟨unit, posting.balanceRequest balance, progress⟩
  | .appending unit _ progress => some ⟨unit, posting.entryRequest, progress⟩
  | _ => none

def Query.Phase.trial? {α : Type} : Query.Phase UnitId Progress α → Option Trial
  | .asking unit request _ progress => some ⟨unit, request, progress⟩
  | _ => none

namespace Shared

def Hand.trial? : Hand → Option Trial
  | .asking unit request progress => some ⟨unit, request, progress⟩
  | _ => none

namespace Client

def trial? : Client → Option Trial
  | .posting wanted (.running phase) => phase.trial? wanted
  | .inquiry _ (.running phase) => phase.trial?
  | .hand (.running task) => task.trial?
  | _ => none

/-- Whether a client finds at its next step that it has been interrupted. Only postings look. -/
def isInterrupted : Client → World Memory → Bool
  | .posting wanted (.running _), world => (wanted.context.interruption world).isSome
  | _, _ => false

/-- The request that the next step of a client tries. -/
def tries? (client : Client) (world : World Memory) : Option Trial :=
  if client.isInterrupted world then none else client.trial?

/-- The reply that a client hears by its next step. -/
def hears? (client : Client) (world : World Memory) :
    Option ((request : Request) × Except StoreError request.Reply) :=
  match client.tries? world with
  | some trial =>
      match Memory.store.tryAsk trial.unit trial.request trial.progress world with
      | (.ready reply, _) => some ⟨trial.request, reply⟩
      | (.waiting _, _) => none
  | none => none

end Client

/-!
## Steps
-/

/-- What a step can do to a ledger besides trying a request. -/
inductive Settles (memory : Memory) : Memory → Prop
  | rearms {after : Memory} (rearmed : Rearmed memory after) : Settles memory after
  | opens {before : Memory} (rearmed : Rearmed memory before) : Settles memory before.openUnit.2
  | leaves (unit : UnitId) (id : AccountId) : Settles memory (memory.leave unit id)
  | discards {before : Memory} (rearmed : Rearmed memory before) (unit : UnitId) :
      Settles memory (before.discard unit)
  | publishes {before : Memory} (rearmed : Rearmed memory before) (unit : UnitId) :
      Settles memory (before.publish unit)

/-- What a step makes of the request that it tries, if it tries one. -/
inductive Trying (world : World Memory) : Option Trial → Option Trial → Memory → Prop
  | settles {next : Option Trial} {after : Memory} (fresh : ∀ trial ∈ next, trial.progress = .fresh)
      (settles : Settles world.store after) : Trying world none next after
  | waits {unit : UnitId} {request : Request} {progress later : Progress} {left : World Memory}
      (tried : Memory.tryAsk unit request progress world = (.waiting later, left)) :
      Trying world (some ⟨unit, request, progress⟩) (some ⟨unit, request, later⟩) left.store
  | hears {unit : UnitId} {request : Request} {progress : Progress}
      {reply : Except StoreError request.Reply} {left : World Memory} {next : Option Trial}
      {after : Memory} (tried : Memory.tryAsk unit request progress world = (.ready reply, left))
      (fresh : ∀ trial ∈ next, trial.progress = .fresh) (settles : Settles left.store after) :
      Trying world (some ⟨unit, request, progress⟩) next after

variable {memory after : Memory} {unit : UnitId} {world : World Memory}

theorem Settles.refl (memory : Memory) : Settles memory memory := .rearms (.refl memory)

private theorem settles_of_opening {result : Poll Progress (Except StoreError UnitId)}
    (opening : Memory.Opening memory result after) : Settles memory after := by
  cases opening with
  | waits progress rearmed => exact .rearms rearmed
  | opens rearmed => exact .opens rearmed
  | fails error rearmed => exact .rearms rearmed

private theorem settles_of_ended {ending : Ending} {result : Except StoreError Unit}
    (ended : Memory.Ended unit memory ending result after) : Settles memory after := by
  cases ended with
  | discards rearmed unpublished => exact .discards rearmed unit
  | publishes rearmed free => exact .publishes rearmed unit

private theorem settles_of_committing {result : Poll Progress (Except StoreError Unit)}
    (committing : Memory.Committing unit memory result after) : Settles memory after := by
  cases committing with
  | sleeps progress rearmed => exact .rearms rearmed
  | fails error rearmed => exact .discards rearmed unit
  | commits rearmed free => exact .publishes rearmed unit

private theorem settles_of_rollingBack {result : Poll Progress (Except StoreError Unit)}
    (rollingBack : Memory.RollingBack unit memory result after) : Settles memory after := by
  cases rollingBack with
  | sleeps progress rearmed => exact .rearms rearmed
  | rollsBack result rearmed => exact .discards rearmed unit

private theorem settles_withdraw (unit : UnitId) (request : Request) (progress : Progress)
    (world : World Memory) :
    Settles world.store (Memory.withdraw unit request progress world).store := by
  rw [Memory.withdraw_eq]
  cases request.awaited? progress with
  | none => exact .refl _
  | some row => exact .leaves unit row

private theorem settles_without (memory : Memory) (unit? : Option UnitId) :
    Settles memory (memory.without unit?) := by
  cases unit? with
  | none => exact .refl memory
  | some unit => exact .discards (.refl memory) unit

private theorem fresh_none : ∀ trial ∈ (none : Option Trial), trial.progress = .fresh :=
  fun _ member => by cases member

private theorem fresh_some (unit : UnitId) (request : Request) :
    ∀ trial ∈ some (⟨unit, request, .fresh⟩ : Trial), trial.progress = .fresh := by
  intro trial member
  cases member
  rfl

private theorem fresh_proceed {α : Type} (unit : UnitId) (script : Script α) :
    ∀ trial ∈ (Query.proceed Memory.store unit script).trial?, trial.progress = .fresh := by
  cases script with
  | done answer => exact fresh_none
  | ask request next => exact fresh_some unit request

def Course.trial? {κ ρ : Type} (trialOf : κ → Option Trial) : Course κ ρ → Option Trial
  | .running call => trialOf call
  | .ended _ => none
  | .dropped => none

private theorem trying_abort (posting : Posting) (unit : UnitId) (cause : PostingError)
    (world : World Memory) :
    (Course.ofTurn (Posting.abort Memory.store unit cause world).1).trial?
      (Posting.Phase.trial? posting) = none ∧
      Settles world.store (Posting.abort Memory.store unit cause world).2.store := by
  unfold Posting.abort
  split
  · exact ⟨rfl, .discards (.refl _) unit⟩
  · exact ⟨rfl, .refl _⟩

section Postings

variable {posting : Posting}

private theorem guardedAsk_uninterrupted {stage : Stage} {request : Request} {progress : Progress}
    (uninterrupted : posting.context.interruption world = none) :
    posting.guardedAsk Memory.store stage unit request progress world =
      match Memory.store.tryAsk unit request progress world with
      | (.waiting progress, world) => (.waiting progress, world)
      | (.ready result, world) => (.ready (result.mapError (.ofStore stage)), world) := by
  simp only [Posting.guardedAsk, Posting.guarded, uninterrupted]
  rcases Memory.store.tryAsk unit request progress world with ⟨later | result, left⟩ <;> rfl

private theorem trying_ending {phase : Posting.Phase UnitId Progress}
    (ending : phase.isEnding = true) (world : World Memory) :
    Trying world none ((Course.ofTurn (posting.step Memory.store phase world).1).trial?
      (·.trial? posting)) (posting.step Memory.store phase world).2.store := by
  cases phase with
  | committing unit receipt progress =>
      have move := posting.step_move (.committing unit receipt progress) world
      generalize (posting.step Memory.store (.committing unit receipt progress) world).1 = turn,
        (posting.step Memory.store (.committing unit receipt progress) world).2.store = left at move
      cases move with
      | keepsCommitting committing => exact .settles fresh_none (settles_of_committing committing)
      | commits committing => exact .settles fresh_none (settles_of_committing committing)
      | failsToCommit committing => exact .settles fresh_none (settles_of_committing committing)
      | interrupted stage interruption owned early withdrawn => cases early
  | undoing unit cause progress =>
      have move := posting.step_move (.undoing unit cause progress) world
      generalize (posting.step Memory.store (.undoing unit cause progress) world).1 = turn,
        (posting.step Memory.store (.undoing unit cause progress) world).2.store = left at move
      cases move with
      | keepsUndoing rollingBack => exact .settles fresh_none (settles_of_rollingBack rollingBack)
      | undoes rollingBack => exact .settles fresh_none (settles_of_rollingBack rollingBack)
      | interrupted stage interruption owned early withdrawn => cases early
  | _ => cases ending

private theorem trying_uninterrupted {phase : Posting.Phase UnitId Progress}
    (uninterrupted : posting.context.interruption world = none) :
    Trying world (phase.trial? posting)
      ((Course.ofTurn (posting.step Memory.store phase world).1).trial? (·.trial? posting))
      (posting.step Memory.store phase world).2.store := by
  cases phase with
  | opening progress =>
      have move := posting.step_move (.opening progress) world
      generalize (posting.step Memory.store (.opening progress) world).1 = turn,
        (posting.step Memory.store (.opening progress) world).2.store = left at move
      cases move with
      | keepsOpening opening => exact .settles fresh_none (settles_of_opening opening)
      | opens opening => exact .settles (fresh_some _ _) (settles_of_opening opening)
      | failsToOpen opening => exact .settles fresh_none (settles_of_opening opening)
      | interruptedOpening interruption => exact .settles fresh_none (.refl _)
      | interrupted stage interruption owned early withdrawn => cases owned
  | locking unit progress =>
      simp only [Posting.step, guardedAsk_uninterrupted uninterrupted]
      rcases tried : Memory.store.tryAsk unit posting.lockRequest progress world
        with ⟨later | error | _ | account, left⟩
      · exact .waits tried
      · obtain ⟨next, settles⟩ := trying_abort posting unit (.ofStore .idle error) left
        exact .hears tried (next ▸ fresh_none) settles
      · obtain ⟨next, settles⟩ := trying_abort posting unit (.notFound posting.account) left
        exact .hears tried (next ▸ fresh_none) settles
      · dsimp only [Except.mapError]
        unfold Posting.judge
        split
        · exact .hears tried (fresh_some _ _) (.refl _)
        · obtain ⟨next, settles⟩ :=
            trying_abort posting unit _ (left.report (Posting.lockedEvent account))
          exact .hears tried (next ▸ fresh_none) settles
  | writing unit balance progress =>
      simp only [Posting.step, guardedAsk_uninterrupted uninterrupted]
      rcases tried : Memory.store.tryAsk unit (posting.balanceRequest balance) progress world
        with ⟨later | error | done, left⟩
      · exact .waits tried
      · obtain ⟨next, settles⟩ := trying_abort posting unit (.ofStore .validated error) left
        exact .hears tried (next ▸ fresh_none) settles
      · exact .hears tried (fresh_some _ _) (.refl _)
  | appending unit balance progress =>
      simp only [Posting.step, guardedAsk_uninterrupted uninterrupted]
      rcases tried : Memory.store.tryAsk unit posting.entryRequest progress world
        with ⟨later | error | entry, left⟩
      · exact .waits tried
      · obtain ⟨next, settles⟩ := trying_abort posting unit (.ofStore .mutated error) left
        exact .hears tried (next ▸ fresh_none) settles
      · dsimp only [Except.mapError]
        unfold Posting.decideCommit
        split
        · obtain ⟨next, settles⟩ := trying_abort posting unit (.ofInterruption .recorded _) left
          exact .hears tried (next ▸ fresh_none) settles
        · exact .hears tried fresh_none (.refl _)
  | committing unit receipt progress => exact trying_ending rfl world
  | undoing unit cause progress => exact trying_ending rfl world

private theorem posting_trying (posting : Posting) (phase : Posting.Phase UnitId Progress)
    (world : World Memory) :
    Trying world ((Client.posting posting (.running phase)).tries? world)
      ((Course.ofTurn (posting.step Memory.store phase world).1).trial? (·.trial? posting))
      (posting.step Memory.store phase world).2.store := by
  cases found : posting.context.interruption world with
  | none =>
      have tries : (Client.posting posting (.running phase)).tries? world =
          phase.trial? posting := by
        simp only [Client.tries?, Client.isInterrupted, found, Option.isSome_none,
          Bool.false_eq_true, if_false, Client.trial?]
      rw [tries]
      exact trying_uninterrupted found
  | some reason =>
      have tries : (Client.posting posting (.running phase)).tries? world = none := by
        simp only [Client.tries?, Client.isInterrupted, found, Option.isSome_some, if_true]
      rw [tries]
      cases ending : phase.isEnding with
      | false =>
          obtain ⟨ends, left⟩ := Posting.step_interrupted ending found
          rw [ends, left]
          exact .settles fresh_none (settles_without _ _)
      | true => exact trying_ending ending world

end Postings

private theorem query_trying {α : Type} {query : Query α} {phase : Query.Phase UnitId Progress α}
    {turn : Turn (Query.Phase UnitId Progress α) (Query.Result α)}
    (move : query.Move world phase turn after) :
    Trying world phase.trial? ((Course.ofTurn turn).trial? Query.Phase.trial?) after := by
  cases move with
  | keepsOpening opening => exact .settles fresh_none (settles_of_opening opening)
  | opens opening => exact .settles (fresh_proceed _ _) (settles_of_opening opening)
  | failsToOpen opening => exact .settles fresh_none (settles_of_opening opening)
  | keepsAsking tried => exact .waits tried
  | hears tried => exact .hears tried (fresh_proceed _ _) (.refl _)
  | fails tried => exact .hears tried fresh_none (.refl _)
  | keepsCommitting rearmed => exact .settles fresh_none (.rearms rearmed)
  | commits ended => exact .settles fresh_none (settles_of_ended ended)
  | failsToCommit ended => exact .settles fresh_none (settles_of_ended ended)
  | keepsUndoing rearmed => exact .settles fresh_none (.rearms rearmed)
  | undoes ended => exact .settles fresh_none (settles_of_ended ended)

private theorem hand_trying {hand : Hand} {course : Course Hand Hand.Result}
    (move : hand.Move world course after) :
    Trying world hand.trial? (course.trial? Hand.trial?) after := by
  cases move with
  | keepsOpening opening => exact .settles fresh_none (settles_of_opening opening)
  | opens opening => exact .settles fresh_none (settles_of_opening opening)
  | failsToOpen opening => exact .settles fresh_none (settles_of_opening opening)
  | idles => exact .settles fresh_none (.refl _)
  | keepsAsking tried => exact .waits tried
  | hears tried => exact .hears tried fresh_none (.refl _)
  | keepsFinishing rearmed => exact .settles fresh_none (.rearms rearmed)
  | finishes ended => exact .settles fresh_none (settles_of_ended ended)

theorem Client.trial?_of_isOver {client : Client} (isOver : client.isOver = true) :
    client.trial? = none := by
  cases client with
  | posting wanted course => cases course <;> first | rfl | cases isOver
  | inquiry asked course => cases course <;> first | rfl | cases isOver
  | hand course => cases course <;> first | rfl | cases isOver

private theorem Client.trial?_posting (wanted : Posting)
    (course : Course (Posting.Phase UnitId Progress) Posting.Result) :
    (Client.posting wanted course).trial? = course.trial? (·.trial? wanted) := by
  cases course <;> rfl

private theorem Client.trial?_inquiry (asked : Inquiry)
    (course : Course (Query.Phase UnitId Progress asked.Answer) (Query.Result asked.Answer)) :
    (Client.inquiry asked course).trial? = course.trial? Query.Phase.trial? := by
  cases course <;> rfl

private theorem Client.trial?_hand (course : Course Hand Hand.Result) :
    (Client.hand course).trial? = course.trial? Hand.trial? := by
  cases course <;> rfl

theorem Client.trial?_of_tries? {client : Client} {world : World Memory} {trial : Trial}
    (tries : trial ∈ client.tries? world) : trial ∈ client.trial? := by
  rw [Client.tries?] at tries
  split at tries
  · cases tries
  · exact tries

/-- What the next step of a client makes of the request that it tries. -/
theorem Client.proceed_trying (client : Client) (world : World Memory) :
    Trying world (client.tries? world) (client.proceed world).1.trial?
      (client.proceed world).2.store := by
  cases client using Client.running_or_over with
  | posting wanted phase =>
      have trying := posting_trying wanted phase world
      rwa [← Client.trial?_posting] at trying
  | inquiry asked phase =>
      have trying := query_trying (asked.query.step_move phase world)
      rwa [← Client.trial?_inquiry] at trying
  | hand task =>
      have trying := hand_trying (task.step_move world)
      rwa [← Client.trial?_hand] at trying
  | settled client isOver =>
      have none : client.tries? world = none := by
        rw [Client.tries?, Client.trial?_of_isOver isOver, ite_self]
      rw [none, Client.proceed_of_isOver isOver, Client.trial?_of_isOver isOver]
      exact .settles fresh_none (.refl _)

/-- A client that is given up tries nothing any more. -/
theorem Client.giveUp_settles (client : Client) (world : World Memory) :
    (client.giveUp world).1.trial? = none ∧ Settles world.store (client.giveUp world).2.store := by
  cases client using Client.running_or_over with
  | posting wanted phase =>
      refine ⟨rfl, ?_⟩
      change Settles world.store (Posting.giveUp Memory.store wanted phase world).store
      rw [Posting.giveUp_without]
      exact settles_without _ _
  | inquiry asked phase =>
      refine ⟨rfl, ?_⟩
      cases phase with
      | opening progress => exact .refl _
      | asking unit request next progress =>
          have left : Settles world.store
              ((Memory.withdraw unit request progress world).store.discard unit) := by
            rw [Memory.discard_withdraw]
            exact .discards (.refl _) unit
          exact left
      | committing unit answer progress => exact .discards (.refl _) unit
      | undoing unit cause progress => exact .discards (.refl _) unit
  | hand task =>
      cases task with
      | opening deadline progress => exact ⟨rfl, .refl _⟩
      | idle unit last => exact ⟨rfl, .discards (.refl _) unit⟩
      | asking unit request progress => exact ⟨rfl, settles_withdraw unit request progress world⟩
      | finishing unit ending progress => exact ⟨rfl, .discards (.refl _) unit⟩
  | settled client isOver =>
      rw [Client.giveUp_of_isOver isOver]
      exact ⟨Client.trial?_of_isOver isOver, .refl _⟩

end Shared

end Passbook
