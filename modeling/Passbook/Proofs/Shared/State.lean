import Passbook.Call.Posting
import Passbook.Call.Query
import Passbook.Memory.Store

/-!
A ledger in memory that any number of clients share. A client is a posting, an inquiry, or a unit of
work in the hands of a caller; the clients take their steps in any order, and between two steps time
passes, tokens are used, and failures and delays are ordered. A step is one try of one store call,
which is finer than the times at which calls can be interleaved.
-/

set_option autoImplicit false

namespace Passbook.Shared

open Memory (Progress)

/-- Identifier of a client. Clients are counted in the order of their arrival. -/
structure ClientId where
  number : Nat
  deriving DecidableEq

/-- A call other than a posting. -/
inductive Inquiry
  | create (registration : Registration) (deadline : Deadline)
  | byId (id : AccountId) (deadline : Deadline)
  | byName (username : String) (deadline : Deadline)
  | history (id : AccountId) (deadline : Deadline)
  | statement (id : AccountId) (deadline : Deadline)

namespace Inquiry

abbrev Answer : Inquiry → Type
  | create _ _ => Account
  | byId _ _ => Option Account
  | byName _ _ => Option Account
  | history _ _ => List Entry
  | statement _ _ => Option Statement

def query : (inquiry : Inquiry) → Query inquiry.Answer
  | create registration deadline => .create registration deadline
  | byId id deadline => .byId id deadline
  | byName username deadline => .byName username deadline
  | history id deadline => .history id deadline
  | statement id deadline => .statement id deadline

end Inquiry

/-- How far a call has come. A dropped call was given up by its caller. -/
inductive Course (κ ρ : Type)
  | running (call : κ)
  | ended (result : ρ)
  | dropped

def Course.ofTurn {κ ρ : Type} : Turn κ ρ → Course κ ρ
  | .rests call => .running call
  | .proceeds call => .running call
  | .ends result => .ended result

/-- Whether a call has been answered or given up. -/
def Course.isOver {κ ρ : Type} : Course κ ρ → Bool
  | .running _ => false
  | .ended _ => true
  | .dropped => true

/-- A unit of work in the hands of a caller, with the last reply it got. -/
inductive Hand
  | opening (deadline : Deadline) (progress : Progress)
  | idle (unit : UnitId) (last : Option ((request : Request) × Except StoreError request.Reply))
  | asking (unit : UnitId) (request : Request) (progress : Progress)
  | finishing (unit : UnitId) (ending : Ending) (progress : Progress)

namespace Hand

abbrev Result := Except StoreError Unit

/-- One step. An idle unit waits for its caller. -/
def step : Hand → World Memory → Course Hand Result × World Memory
  | .opening deadline progress, world =>
      match Memory.store.tryOpenBy deadline progress world with
      | (.waiting progress, world) => (.running (.opening deadline progress), world)
      | (.ready (.ok unit), world) => (.running (.idle unit none), world)
      | (.ready (.error error), world) => (.ended (.error error), world)
  | .idle unit last, world => (.running (.idle unit last), world)
  | .asking unit request progress, world =>
      match Memory.store.tryAsk unit request progress world with
      | (.waiting progress, world) => (.running (.asking unit request progress), world)
      | (.ready reply, world) => (.running (.idle unit (some ⟨request, reply⟩)), world)
  | .finishing unit ending progress, world =>
      match Memory.store.tryFinish unit ending progress world with
      | (.waiting progress, world) => (.running (.finishing unit ending progress), world)
      | (.ready result, world) => (.ended result, world)

/-- Gives up what the caller is doing. A unit whose request is given up is idle again; an idle unit
is dropped. -/
def giveUp : Hand → World Memory → Course Hand Result × World Memory
  | .opening _ _, world => (.dropped, world)
  | .idle unit _, world => (.dropped, Memory.store.drop unit world)
  | .asking unit request progress, world =>
      (.running (.idle unit none), Memory.store.withdraw unit request progress world)
  | .finishing unit _ _, world => (.dropped, Memory.store.drop unit world)

end Hand

inductive Client
  | posting (posting : Posting) (course : Course (Posting.Phase UnitId Progress) Posting.Result)
  | inquiry (inquiry : Inquiry)
      (course : Course (Query.Phase UnitId Progress inquiry.Answer) (Query.Result inquiry.Answer))
  | hand (course : Course Hand Hand.Result)

namespace Client

/-- Takes one step. A client that is not running takes none. -/
def proceed : Client → World Memory → Client × World Memory
  | .posting wanted (.running phase), world =>
      let (turn, world) := Posting.step Memory.store wanted phase world
      (.posting wanted (.ofTurn turn), world)
  | .inquiry asked (.running phase), world =>
      let (turn, world) := Query.step Memory.store asked.query phase world
      (.inquiry asked (.ofTurn turn), world)
  | .hand (.running task), world =>
      let (course, world) := task.step world
      (.hand course, world)
  | client, world => (client, world)

/-- Is given up. A call is dropped, a unit in the hands of a caller gives up what it is doing. -/
def giveUp : Client → World Memory → Client × World Memory
  | .posting wanted (.running phase), world =>
      (.posting wanted .dropped, Posting.giveUp Memory.store wanted phase world)
  | .inquiry asked (.running phase), world =>
      (.inquiry asked .dropped, Query.giveUp Memory.store phase world)
  | .hand (.running task), world =>
      let (course, world) := task.giveUp world
      (.hand course, world)
  | client, world => (client, world)

/-- Whether a posting that was waiting for the row of its account holds it afterwards. -/
def gainsRow : Client → World Memory → Bool
  | .posting wanted (.running (.locking unit _)), after => after.store.holds unit wanted.account
  | _, _ => false

end Client

/-- What can happen. -/
inductive Action
  | wait (milliseconds : Nat)
  | cancel (token : Token)
  | failNext (point : FaultPoint)
  | delayNext (point : FaultPoint) (milliseconds : Nat)
  | post (posting : Posting)
  | inquire (inquiry : Inquiry)
  | openUnit (deadline : Deadline)
  | ask (client : ClientId) (request : Request)
  | finish (client : ClientId) (ending : Ending)
  | proceed (client : ClientId)
  | giveUp (client : ClientId)

/-- A shared ledger with its clients. `grants` are the postings that got the row they had asked for,
in the order in which they got it. -/
structure State where
  world : World Memory
  clients : ClientId → Option Client
  lastClient : Nat
  grants : List ClientId

namespace State

def start : State := ⟨⟨0, [], .empty, []⟩, fun _ => none, 0, []⟩

abbrev memory (state : State) : Memory := state.world.store

def welcome (state : State) (client : Client) : State :=
  { state with
    clients := assign state.clients ⟨state.lastClient + 1⟩ (some client)
    lastClient := state.lastClient + 1 }

def settle (state : State) (id : ClientId) (done : Client × World Memory) : State :=
  { state with world := done.2, clients := assign state.clients id (some done.1) }

def direct (state : State) (id : ClientId) (task : UnitId → Hand) : State :=
  match state.clients id with
  | some (.hand (.running (.idle unit _))) =>
      { state with clients := assign state.clients id (some (.hand (.running (task unit)))) }
  | _ => state

/-- What happens. An action that is not possible changes nothing. -/
def perform (state : State) : Action → State
  | .wait milliseconds =>
      { state with world := { state.world with now := state.world.now + milliseconds } }
  | .cancel token => { state with world := state.world.cancel token }
  | .failNext point => { state with world := Memory.update state.world (·.failNext point) }
  | .delayNext point milliseconds =>
      { state with world := Memory.update state.world (·.delayNext point milliseconds) }
  | .post posting => state.welcome (.posting posting (.running (Posting.start Memory.store)))
  | .inquire inquiry => state.welcome (.inquiry inquiry (.running (Query.start Memory.store)))
  | .openUnit deadline => state.welcome (.hand (.running (.opening deadline Memory.store.fresh)))
  | .ask id request => state.direct id fun unit => .asking unit request Memory.store.fresh
  | .finish id ending => state.direct id fun unit => .finishing unit ending Memory.store.fresh
  | .proceed id =>
      match state.clients id with
      | some client =>
          let done := client.proceed state.world
          { state.settle id done with
            grants := if client.gainsRow done.2 then state.grants ++ [id] else state.grants }
      | none => state
  | .giveUp id =>
      match state.clients id with
      | some client => state.settle id (client.giveUp state.world)
      | none => state

end State

def run (actions : List Action) : State := actions.foldl State.perform .start

theorem run_append (earlier later : List Action) :
    run (earlier ++ later) = later.foldl State.perform (run earlier) := List.foldl_append

/-- What every action keeps holds at the end if it holds at the beginning. -/
theorem perform_induction {property : State → Prop} {actions : List Action}
    (kept : ∀ state, ∀ action ∈ actions, property state → property (state.perform action)) :
    ∀ state, property state → property (actions.foldl State.perform state) := by
  induction actions with
  | nil => exact fun _ holds => holds
  | cons action later ih =>
      intro state holds
      exact ih (fun state other member => kept state other (.tail _ member)) _
        (kept state action (.head _) holds)

/-!
## Calls that are tried

A call is tried by taking steps until it rests or ends, and nothing else happens meanwhile. So a run
in which calls are tried is one of the runs above.
-/

/-- What a try makes of a call. -/
def Course.ofPoll {κ ρ : Type} : Poll κ ρ → Course κ ρ
  | .waiting call => .running call
  | .ready result => .ended result

section Tries

variable {κ ρ : Type} {step : κ → World Memory → Turn κ ρ × World Memory}

theorem State.perform_proceed {state : State} {id : ClientId} {client : Client}
    (known : state.clients id = some client) :
    (state.perform (.proceed id)).world = (client.proceed state.world).2 ∧
      (state.perform (.proceed id)).clients id = some (client.proceed state.world).1 := by
  simp only [State.perform, known, State.settle]
  exact ⟨trivial, assign_same _ _ _⟩

theorem State.perform_giveUp {state : State} {id : ClientId} {client : Client}
    (known : state.clients id = some client) :
    (state.perform (.giveUp id)).world = (client.giveUp state.world).2 ∧
      (state.perform (.giveUp id)).clients id = some (client.giveUp state.world).1 := by
  simp only [State.perform, known, State.settle]
  exact ⟨trivial, assign_same _ _ _⟩

/-- A try of a call is a number of steps of its client. -/
theorem tries_of_proceeds (wrap : Course κ ρ → Client)
    (proceeds : ∀ call world, (wrap (.running call)).proceed world =
      (wrap (.ofTurn (step call world).1), (step call world).2))
    (limit : Nat) {state : State} {id : ClientId} {call : κ}
    (known : state.clients id = some (wrap (.running call))) :
    ∃ steps, steps ≤ limit ∧
      ((List.replicate steps (.proceed id)).foldl State.perform state).world =
        (settle step limit call state.world).2 ∧
      ((List.replicate steps (.proceed id)).foldl State.perform state).clients id =
        some (wrap (.ofPoll (settle step limit call state.world).1)) := by
  induction limit generalizing state call with
  | zero => exact ⟨0, Nat.le_refl 0, rfl, known⟩
  | succ limit ih =>
      obtain ⟨world, now⟩ := State.perform_proceed known
      rw [proceeds] at world now
      simp only [settle]
      rcases taken : step call state.world with ⟨next | next | result, after⟩
      · rw [taken] at world now
        exact ⟨1, Nat.succ_le_succ (Nat.zero_le limit), world, now⟩
      · rw [taken] at world now
        obtain ⟨steps, few, reached, settled⟩ := ih now
        rw [world] at reached settled
        exact ⟨steps + 1, Nat.succ_le_succ few, reached, settled⟩
      · rw [taken] at world now
        exact ⟨1, Nat.succ_le_succ (Nat.zero_le limit), world, now⟩

theorem tries_posting {state : State} {id : ClientId} {wanted : Posting}
    {phase : Posting.Phase UnitId Progress}
    (known : state.clients id = some (.posting wanted (.running phase))) :
    ∃ steps, ((List.replicate steps (.proceed id)).foldl State.perform state).world =
        (wanted.tryPost Memory.store phase state.world).2 ∧
      ((List.replicate steps (.proceed id)).foldl State.perform state).clients id =
        some (.posting wanted (.ofPoll (wanted.tryPost Memory.store phase state.world).1)) := by
  obtain ⟨steps, _, reached⟩ := tries_of_proceeds (.posting wanted) (fun _ _ => rfl) 7 known
  exact ⟨steps, reached⟩

theorem tries_inquiry {state : State} {id : ClientId} {asked : Inquiry}
    {phase : Query.Phase UnitId Progress asked.Answer}
    (known : state.clients id = some (.inquiry asked (.running phase))) :
    ∃ steps, ((List.replicate steps (.proceed id)).foldl State.perform state).world =
        (asked.query.tryRun Memory.store phase state.world).2 ∧
      ((List.replicate steps (.proceed id)).foldl State.perform state).clients id =
        some (.inquiry asked (.ofPoll (asked.query.tryRun Memory.store phase state.world).1)) := by
  obtain ⟨steps, _, reached⟩ := tries_of_proceeds (.inquiry asked) (fun _ _ => rfl) 5 known
  exact ⟨steps, reached⟩

end Tries

/-!
## A short run
-/

def sampleRegistration : Registration :=
  ⟨"alice", "hash", by decide +kernel, by decide +kernel, by decide +kernel, by decide +kernel⟩

def sampleMovement (kind : EntryKind) : Posting :=
  ⟨.unbounded, ⟨1⟩, kind,
    ⟨⟨false, 1, 0, by decide, Decimal.zero.scale_le⟩, by decide, by decide, by decide, by decide⟩⟩

/-- An account is opened and credited with one unit. Then two debits of one unit overtake each
other: the one that came second gets the row first, and the other finds the account empty. -/
def sampleActions : List Action :=
  [.inquire (.create sampleRegistration .never)] ++ List.replicate 3 (.proceed ⟨1⟩) ++
    [.post (sampleMovement .credit)] ++ List.replicate 5 (.proceed ⟨2⟩) ++
    [.post (sampleMovement .debit), .post (sampleMovement .debit), .proceed ⟨3⟩] ++
    List.replicate 2 (.proceed ⟨4⟩) ++ [.proceed ⟨3⟩] ++ List.replicate 3 (.proceed ⟨4⟩) ++
    List.replicate 2 (.proceed ⟨3⟩)

end Passbook.Shared
