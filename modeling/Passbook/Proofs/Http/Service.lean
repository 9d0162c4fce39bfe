import Mathlib.Data.List.Induction
import Passbook.Http.Exchange
import Passbook.Proofs.Shared.Drafts
import Passbook.Proofs.Shared.PostingFits

/-!
A service that answers requests over a ledger in memory. Requests arrive at any time, each with a
time that its answer may take, and are answered side by side: between two steps of one request
others take theirs, time passes, failures and delays are ordered, and requests whose senders have
gone are dropped. A step is one try of one store call, so that a try of an answer is a number of
steps.
-/

set_option autoImplicit false

namespace Passbook.Http

open Memory (Progress Rearmed)
open Shared (Client ClientId Course)

/-- How far a request has come. -/
inductive Visit
  | answering (exchange : Exchange UnitId Progress)
  | answered (request : Request) (answer : Answer)
  | dropped (request : Request)

def Visit.ofTurn (request : Request) : Turn (Exchange UnitId Progress) Answer → Visit
  | .rests exchange => .answering exchange
  | .proceeds exchange => .answering exchange
  | .ends answer => .answered request answer

/-- What can happen. -/
inductive Event
  | wait (milliseconds : Nat)
  | failNext (point : FaultPoint)
  | delayNext (point : FaultPoint) (milliseconds : Nat)
  | arrive (request : Request) (timeout : Nat)
  | proceed (id : ClientId)
  | giveUp (id : ClientId)

/-- A ledger with the requests that have arrived. They are the clients of the ledger, counted in the
order of their arrival. -/
structure Service where
  world : World Memory
  visits : ClientId → Option Visit
  lastVisit : Nat

namespace Service

def start : Service := ⟨⟨0, [], .empty, []⟩, fun _ => none, 0⟩

abbrev memory (service : Service) : Memory := service.world.store

/-- What happens. An event that is not possible changes nothing. -/
def perform (service : Service) : Event → Service
  | .wait milliseconds =>
      { service with world := { service.world with now := service.world.now + milliseconds } }
  | .failNext point => { service with world := Memory.update service.world (·.failNext point) }
  | .delayNext point milliseconds =>
      { service with world := Memory.update service.world (·.delayNext point milliseconds) }
  | .arrive request timeout =>
      { service with
        visits := assign service.visits ⟨service.lastVisit + 1⟩
          (some (.answering (.start Memory.store service.world.now timeout request)))
        lastVisit := service.lastVisit + 1 }
  | .proceed id =>
      match service.visits id with
      | some (.answering exchange) =>
          let (turn, world) := exchange.step Memory.store service.world
          { service with
            world, visits := assign service.visits id (some (.ofTurn exchange.request turn)) }
      | _ => service
  | .giveUp id =>
      match service.visits id with
      | some (.answering exchange) =>
          { service with
            world := exchange.giveUp Memory.store service.world
            visits := assign service.visits id (some (.dropped exchange.request)) }
      | _ => service

end Service

def serve (events : List Event) : Service := events.foldl Service.perform .start

theorem serve_append (earlier : List Event) (event : Event) :
    serve (earlier ++ [event]) = (serve earlier).perform event :=
  List.foldl_append

/-!
## Steps of requests
-/

/-- The call that a request has started, as a client of the ledger. -/
def Work.client? : Work UnitId Progress → Option Client
  | .none _ => Option.none
  | .creating registration deadline phase =>
      some (.inquiry (.create registration deadline) (.running phase))
  | .finding id deadline phase => some (.inquiry (.byId id deadline) (.running phase))
  | .listing id deadline phase => some (.inquiry (.statement id deadline) (.running phase))
  | .moving posting phase => some (.posting posting (.running phase))

/-- The call that an action denotes, before its first step. -/
def Action.client? (context : CallContext) : Action → Option Client
  | .answer _ => none
  | .create registration =>
      some (.inquiry (.create registration context.deadline) (.running (.opening .fresh)))
  | .find id => some (.inquiry (.byId id context.deadline) (.running (.opening .fresh)))
  | .list id => some (.inquiry (.statement id context.deadline) (.running (.opening .fresh)))
  | .move kind id amount => some (.posting ⟨context, id, kind, amount⟩ (.running (.opening .fresh)))

theorem start_client? (now timeout : Nat) (request : Request) :
    (Exchange.start Memory.store now timeout request).work.client? =
      request.action.client? (callContext now timeout) := by
  simp only [Exchange.start]
  cases request.action <;> rfl

/-- The response to a request whose call has ended. -/
def response? : Client → Option Response
  | .posting _ (.ended result) => some (movedResponse result)
  | .inquiry (.create _ _) (.ended result) => some (createdResponse result)
  | .inquiry (.byId _ _) (.ended result) => some (foundResponse result)
  | .inquiry (.statement _ _) (.ended result) => some (listedResponse result)
  | _ => none

theorem isOver_of_response? {client : Client} {response : Response}
    (answers : response? client = some response) :
    client.isOver = true := by
  cases client using Client.running_or_over with
  | posting wanted phase => cases answers
  | inquiry asked phase => cases asked <;> cases answers
  | hand task => cases answers
  | settled client isOver => exact isOver

namespace Exchange

/-- What a step of a request is: its answer at once, or a step of its call, with which it goes on or
is answered. -/
inductive Move (exchange : Exchange UnitId Progress) (world : World Memory) : Visit → Memory → Prop
  | answers {response : Response} (work : exchange.work = .none response) :
      Move exchange world
        (.answered exchange.request ⟨exchange.request.id, sent exchange.request response⟩)
        world.store
  | goesOn {client : Client} {work : Work UnitId Progress}
      (calls : exchange.work.client? = some client)
      (next : work.client? = some (client.proceed world).1) :
      Move exchange world (.answering ⟨exchange.request, work⟩) (client.proceed world).2.store
  | ends {client : Client} {response : Response} (calls : exchange.work.client? = some client)
      (answered : response? (client.proceed world).1 = some response) :
      Move exchange world
        (.answered exchange.request ⟨exchange.request.id, sent exchange.request response⟩)
        (client.proceed world).2.store

variable {exchange : Exchange UnitId Progress} {world : World Memory}

theorem store_reportFault {α : Type} (result : Except StoreError α) (world : World Memory) :
    (reportFault result world).store = world.store := by
  cases result with
  | ok value => rfl
  | error error =>
      have reported : ∀ (events : List Log.Event) (world : World Memory),
          (events.foldl World.report world).store = world.store := by
        intro events
        induction events with
        | nil => exact fun _ => rfl
        | cons event events ih => exact fun world => ih (world.report event)
      exact reported _ world

/-- A step of the call of a request, seen from the request. -/
private theorem afterStep_move {κ ρ : Type} (wrap : Course κ ρ → Client) {client : Client}
    {rest : κ → Work UnitId Progress} {report : ρ → World Memory → World Memory}
    {respond : ρ → Response} (calls : exchange.work.client? = some client) {turn : Turn κ ρ}
    {left : World Memory} (stepped : client.proceed world = (wrap (.ofTurn turn), left))
    (works : ∀ call, (rest call).client? = some (wrap (.running call)))
    (responds : ∀ result, response? (wrap (.ended result)) = some (respond result))
    (silent : ∀ result, (report result left).store = left.store) :
    Move exchange world
      (.ofTurn exchange.request (afterStep exchange.request rest report respond (turn, left)).1)
      (afterStep exchange.request rest report respond (turn, left)).2.store := by
  have goesOn : ∀ call, client.proceed world = (wrap (.running call), left) →
      Move exchange world (.answering ⟨exchange.request, rest call⟩) left.store := by
    intro call same
    have move : Move exchange world (.answering ⟨exchange.request, rest call⟩)
        (client.proceed world).2.store :=
      .goesOn calls (by rw [works, same])
    rwa [same] at move
  cases turn with
  | rests call => exact goesOn call stepped
  | proceeds call => exact goesOn call stepped
  | ends result =>
      have move : Move exchange world
          (.answered exchange.request ⟨exchange.request.id, sent exchange.request (respond result)⟩)
            (client.proceed world).2.store :=
        .ends calls (by rw [stepped]; exact responds result)
      rw [stepped] at move
      have same : (afterStep exchange.request rest report respond (.ends result, left)).2.store =
          left.store := silent result
      rw [same]
      exact move

theorem step_move (exchange : Exchange UnitId Progress) (world : World Memory) :
    Move exchange world (.ofTurn exchange.request (exchange.step Memory.store world).1)
      (exchange.step Memory.store world).2.store := by
  obtain ⟨request, work⟩ := exchange
  cases work with
  | none response => exact .answers rfl
  | creating registration deadline phase =>
      exact afterStep_move (.inquiry (.create registration deadline)) rfl rfl (fun _ => rfl)
        (fun _ => rfl) fun result => store_reportFault result _
  | finding id deadline phase =>
      exact afterStep_move (.inquiry (.byId id deadline)) rfl rfl (fun _ => rfl) (fun _ => rfl)
        fun result => store_reportFault result _
  | listing id deadline phase =>
      exact afterStep_move (.inquiry (.statement id deadline)) rfl rfl (fun _ => rfl) (fun _ => rfl)
        fun result => store_reportFault result _
  | moving posting phase =>
      exact afterStep_move (.posting posting) rfl rfl (fun _ => rfl) (fun _ => rfl) fun _ => rfl

theorem giveUp_client {client : Client} (calls : exchange.work.client? = some client)
    (world : World Memory) :
    exchange.giveUp Memory.store world = (client.giveUp world).2 ∧
      (client.giveUp world).1.isOver = true := by
  obtain ⟨request, work⟩ := exchange
  cases work with
  | none response => cases calls
  | _ =>
      cases calls
      exact ⟨rfl, rfl⟩

theorem giveUp_none (idle : exchange.work.client? = none) (world : World Memory) :
    exchange.giveUp Memory.store world = world := by
  obtain ⟨request, work⟩ := exchange
  cases work with
  | none response => rfl
  | _ => cases idle

end Exchange

/-!
## Events
-/

variable {service : Service} {id : ClientId} {exchange : Exchange UnitId Progress}

theorem Service.perform_proceed (known : service.visits id = some (.answering exchange)) :
    service.perform (.proceed id) =
      ⟨(exchange.step Memory.store service.world).2,
        assign service.visits id
          (some (.ofTurn exchange.request (exchange.step Memory.store service.world).1)),
          service.lastVisit⟩ := by
  simp only [Service.perform, known]

theorem Service.perform_giveUp (known : service.visits id = some (.answering exchange)) :
    service.perform (.giveUp id) =
      ⟨exchange.giveUp Memory.store service.world,
        assign service.visits id (some (.dropped exchange.request)), service.lastVisit⟩ := by
  simp only [Service.perform, known]

theorem Service.perform_proceed_idle
    (idle : ∀ exchange, service.visits id ≠ some (.answering exchange)) :
    service.perform (.proceed id) = service := by
  rcases known : service.visits id with _ | (exchange | ⟨request, answer⟩ | request)
  · simp only [Service.perform, known]
  · exact absurd known (idle exchange)
  · simp only [Service.perform, known]
  · simp only [Service.perform, known]

theorem Service.perform_giveUp_idle
    (idle : ∀ exchange, service.visits id ≠ some (.answering exchange)) :
    service.perform (.giveUp id) = service := by
  rcases known : service.visits id with _ | (exchange | ⟨request, answer⟩ | request)
  · simp only [Service.perform, known]
  · exact absurd known (idle exchange)
  · simp only [Service.perform, known]
  · simp only [Service.perform, known]

/-- What a try makes of a request. -/
def Visit.ofPoll (request : Request) : Poll (Exchange UnitId Progress) Answer → Visit
  | .waiting exchange => .answering exchange
  | .ready answer => .answered request answer

/-- A try of an answer is a number of steps of its request. -/
theorem tries_answer (limit : Nat) (known : service.visits id = some (.answering exchange)) :
    ∃ steps, ((List.replicate steps (.proceed id)).foldl Service.perform service).world =
        (settle (Exchange.step Memory.store) limit exchange service.world).2 ∧
      ((List.replicate steps (.proceed id)).foldl Service.perform service).visits id =
        some (.ofPoll exchange.request
          (settle (Exchange.step Memory.store) limit exchange service.world).1) := by
  induction limit generalizing service exchange with
  | zero => exact ⟨0, rfl, known⟩
  | succ limit ih =>
      have next := Service.perform_proceed known
      have same : ∀ later, (exchange.step Memory.store service.world).1 = .proceeds later →
          later.request = exchange.request := by
        intro later proceeds
        have move := exchange.step_move service.world
        rw [proceeds, Visit.ofTurn] at move
        generalize (exchange.step Memory.store service.world).2.store = left at move
        cases move with
        | goesOn calls next => rfl
      simp only [settle]
      rcases taken : exchange.step Memory.store service.world with ⟨later | later | answer, after⟩
      · rw [taken] at next
        exact ⟨1, congrArg Service.world next,
          by rw [List.replicate_one, List.foldl_cons, next]; exact assign_same _ _ _⟩
      · rw [taken] at next same
        have now : (service.perform (.proceed id)).visits id = some (.answering later) := by
          rw [next]
          exact assign_same _ _ _
        obtain ⟨steps, reached, settled⟩ := ih now
        rw [congrArg Service.world next] at reached settled
        rw [same later rfl] at settled
        exact ⟨steps + 1, reached, settled⟩
      · rw [taken] at next
        exact ⟨1, congrArg Service.world next,
          by rw [List.replicate_one, List.foldl_cons, next]; exact assign_same _ _ _⟩

/-!
## The ledger behind
-/

/-- The call of a request that is in progress. -/
def Visit.client? : Visit → Option Client
  | .answering exchange => exchange.work.client?
  | _ => none

/-- The shared ledger whose clients are the calls of the requests in progress. -/
def Service.ledger (service : Service) : Shared.State where
  world := service.world
  clients id := (service.visits id).bind Visit.client?
  lastClient := service.lastVisit
  grants := []

/-- What is known of a shared ledger: each unit of work has one owner, and the calls have staged
what they should. -/
structure Kept (state : Shared.State) : Prop where
  owned : state.Owned
  fits : Shared.Invariant.Everywhere Client.Fits state
  drafts : Shared.Invariant.Everywhere Client.Drafts state

namespace Kept

variable {state after : Shared.State}

theorem transition (kept : Kept state)
    (transition : Shared.State.Transition (fun _ => True) state after) : Kept after where
  owned := kept.owned.advance transition.advance
  fits := Shared.posting_fits.transition kept.owned kept.fits transition
  drafts := Shared.drafts_clients.transition kept.owned kept.drafts transition

/-- Nothing changes when calls that are over are forgotten. -/
theorem forgets (kept : Kept state) (memory : after.memory = state.memory)
    (count : state.lastClient ≤ after.lastClient)
    (clients : ∀ id, after.clients id = state.clients id ∨
      (after.clients id = none ∧ ∀ client, state.clients id = some client → client.isOver = true)) :
    Kept after := by
  have known : ∀ id client, after.clients id = some client → state.clients id = some client := by
    intro id client present
    rcases clients id with same | ⟨absent, _⟩
    · exact same.symm.trans present
    · cases absent.symm.trans present
  have units : ∀ id, after.unitOf id = state.unitOf id := by
    intro id
    rcases clients id with same | ⟨absent, isOver⟩
    · rw [Shared.State.unitOf, Shared.State.unitOf, same]
    · rw [Shared.State.unitOf, Shared.State.unitOf, absent]
      cases before : state.clients id with
      | none => rfl
      | some client => exact (Shared.Client.unit?_of_isOver (isOver client before)).symm
  refine ⟨⟨?_, ?_, ?_, ?_, ?_⟩, ?_, ?_⟩
  · rw [memory]
    exact kept.owned.sound
  · intro id unit has
    rw [memory]
    exact kept.owned.isOpen id unit (units id ▸ has)
  · exact fun one other unit first second =>
      kept.owned.alone one other unit (units one ▸ first) (units other ▸ second)
  · intro unit isOpen
    rw [memory] at isOpen
    obtain ⟨id, has⟩ := kept.owned.owner unit isOpen
    exact ⟨id, (units id).trans has⟩
  · intro id present
    obtain ⟨client, found⟩ := Option.ne_none_iff_exists'.mp present
    exact Nat.le_trans (kept.owned.arrived id (by simp [known id client found])) count
  · intro id client present
    rw [memory]
    exact kept.fits id client (known id client present)
  · intro id client present
    rw [memory]
    exact kept.drafts id client (known id client present)

theorem start : Kept Service.start.ledger where
  owned := Shared.State.owned_start
  fits id client known := by cases known
  drafts id client known := by cases known

end Kept

theorem Service.ledger_known {client : Client}
    (known : service.visits id = some (.answering exchange))
    (calls : exchange.work.client? = some client) : service.ledger.clients id = some client := by
  simp [Service.ledger, known, Visit.client?, calls]

private theorem kept_arrive (kept : Kept service.ledger) (request : Request) (timeout : Nat) :
    Kept (service.perform (.arrive request timeout)).ledger := by
  have clients : ∀ other, (service.perform (.arrive request timeout)).ledger.clients other =
      assign service.ledger.clients ⟨service.lastVisit + 1⟩
        (Exchange.start Memory.store service.world.now timeout request).work.client? other := by
    intro other
    by_cases new : other = ⟨service.lastVisit + 1⟩
    · subst new
      simp [Service.ledger, Service.perform, Visit.client?]
    · simp [Service.ledger, Service.perform, assign_other _ _ new]
  have welcomes : ∀ client, request.action.client? (callContext service.world.now timeout) =
    some client →
      Kept (service.ledger.welcome client) →
        Kept (service.perform (.arrive request timeout)).ledger := by
    intro client calls welcomed
    refine welcomed.forgets rfl (Nat.le_refl _) fun other => .inl ?_
    rw [clients, start_client?, calls]
    rfl
  cases asked : request.action with
  | answer response =>
      refine kept.forgets rfl (Nat.le_succ _) fun other => .inl ?_
      rw [clients, start_client?, asked, Action.client?]
      by_cases new : other = ⟨service.lastVisit + 1⟩
      · rw [new, assign_same]
        exact kept.owned.next_clients.symm
      · exact assign_other _ _ new
  | create registration => exact welcomes _ (congrArg _ asked) (kept.transition (.inquires _))
  | find id => exact welcomes _ (congrArg _ asked) (kept.transition (.inquires _))
  | list id => exact welcomes _ (congrArg _ asked) (kept.transition (.inquires _))
  | move kind id amount => exact welcomes _ (congrArg _ asked) (kept.transition (.posts _))

private theorem clients_assign_visit (visit : Visit) (other : ClientId) {world : World Memory} :
    (Service.mk world (assign service.visits id (some visit)) service.lastVisit).ledger.clients
      other =
      assign service.ledger.clients id visit.client? other := by
  by_cases same : other = id
  · subst same
    simp [Service.ledger]
  · simp [Service.ledger, assign_other _ _ same]

private theorem kept_proceed (kept : Kept service.ledger)
    (known : service.visits id = some (.answering exchange)) :
    Kept (service.perform (.proceed id)).ledger := by
  have move := exchange.step_move service.world
  rw [Service.perform_proceed known]
  generalize Visit.ofTurn exchange.request (exchange.step Memory.store service.world).1 = visit
    at move ⊢
  generalize left : (exchange.step Memory.store service.world).2 = world at move ⊢
  generalize memory : world.store = after at move
  -- The call takes its step first; then it is forgotten if that was its last.
  have steps : ∀ client, exchange.work.client? = some client → Kept
      { service.ledger.settle id (client.proceed service.world) with
        grants := if client.gainsRow (client.proceed service.world).2 then
          service.ledger.grants ++ [id] else service.ledger.grants } :=
    fun client calls => kept.transition (.proceeds (service.ledger_known known calls))
  cases move with
  | answers work =>
      refine kept.forgets memory (Nat.le_refl _) fun other => .inl ?_
      rw [clients_assign_visit]
      by_cases same : other = id
      · subst same
        simp [Visit.client?, Service.ledger, known, work, Work.client?]
      · exact assign_other _ _ same
  | goesOn calls next =>
      refine (steps _ calls).forgets memory (Nat.le_refl _) fun other => .inl ?_
      rw [clients_assign_visit, Visit.client?, next]
      rfl
  | ends calls answered =>
      refine (steps _ calls).forgets memory (Nat.le_refl _) fun other => ?_
      rw [clients_assign_visit]
      by_cases same : other = id
      · subst same
        refine .inr ⟨assign_same _ _ _, fun client present => ?_⟩
        cases (assign_same service.ledger.clients other _).symm.trans present
        exact isOver_of_response? answered
      · exact .inl ((assign_other _ _ same).trans (assign_other _ _ same).symm)

private theorem kept_giveUp (kept : Kept service.ledger)
    (known : service.visits id = some (.answering exchange)) :
    Kept (service.perform (.giveUp id)).ledger := by
  rw [Service.perform_giveUp known]
  cases calls : exchange.work.client? with
  | none =>
      rw [Exchange.giveUp_none calls]
      refine kept.forgets rfl (Nat.le_refl _) fun other => .inl ?_
      rw [clients_assign_visit]
      by_cases same : other = id
      · subst same
        simp [Visit.client?, Service.ledger, known, calls]
      · exact assign_other _ _ same
  | some client =>
      obtain ⟨left, isOver⟩ := Exchange.giveUp_client calls service.world
      have steps : Kept (service.ledger.settle id (client.giveUp service.world)) :=
        kept.transition (.givesUp (service.ledger_known known calls))
      refine steps.forgets (congrArg World.store left) (Nat.le_refl _) fun other => ?_
      rw [clients_assign_visit]
      by_cases same : other = id
      · subst same
        refine .inr ⟨assign_same _ _ _, fun client present => ?_⟩
        cases (assign_same service.ledger.clients other _).symm.trans present
        exact isOver
      · exact .inl ((assign_other _ _ same).trans (assign_other _ _ same).symm)

theorem Kept.perform (kept : Kept service.ledger) (event : Event) :
    Kept (service.perform event).ledger := by
  cases event with
  | wait milliseconds => exact kept.transition (.quiet (.refl _) rfl rfl rfl)
  | failNext point => exact kept.transition (.quiet ⟨_, service.memory.delays, rfl⟩ rfl rfl rfl)
  | delayNext point milliseconds =>
      exact kept.transition (.quiet ⟨service.memory.faults, _, rfl⟩ rfl rfl rfl)
  | arrive request timeout => exact kept_arrive kept request timeout
  | proceed id =>
      by_cases answering : ∃ exchange, service.visits id = some (.answering exchange)
      · exact kept_proceed kept answering.choose_spec
      · rw [Service.perform_proceed_idle (not_exists.mp answering)]
        exact kept
  | giveUp id =>
      by_cases answering : ∃ exchange, service.visits id = some (.answering exchange)
      · exact kept_giveUp kept answering.choose_spec
      · rw [Service.perform_giveUp_idle (not_exists.mp answering)]
        exact kept

theorem kept_serve (events : List Event) : Kept (serve events).ledger := by
  induction events using List.reverseRecOn with
  | nil => exact .start
  | append_singleton earlier event ih =>
      rw [serve_append]
      exact ih.perform event

end Passbook.Http
