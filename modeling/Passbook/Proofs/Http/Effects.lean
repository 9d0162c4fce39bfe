import Passbook.Proofs.Http.Service
import Passbook.Proofs.Shared.AppendOnly
import Passbook.Proofs.Shared.Commitment

/-!
What requests do to the committed ledger, told from their answers. A request changes the ledger in
the step in which it is answered, if at all, and then its answer says so; a request that is answered
without a call leaves the whole ledger as it was.
-/

set_option autoImplicit false

namespace Passbook.Http

open Memory (Progress Rearmed)
open Shared (Client ClientId Course Founds)

/-- Whether an event is part of the answering of a request: the request arrives, takes a step, or is
given up. -/
def Event.isOf (id : ClientId) (before : Service) : Event → Prop
  | .arrive _ _ => id = ⟨before.lastVisit + 1⟩
  | .proceed other => other = id
  | .giveUp other => other = id
  | _ => False

/-- Whether an event of a request changed the committed ledger in the course of some events. It
comes after the earlier ones. -/
structure Changes (events : List Event) (id : ClientId) (earlier : List Event)
    (event : Event) : Prop where
  taken : earlier ++ [event] <+: events
  own : event.isOf id (serve earlier)
  changed : (serve (earlier ++ [event])).memory.tables ≠ (serve earlier).memory.tables

/-- Whether a request has changed the committed ledger. -/
def Committed (events : List Event) (id : ClientId) : Prop :=
  ∃ earlier event, Changes events id earlier event

/-- Whether a request has changed the committed ledger by one event only, and how. -/
def CommittedOnce (events : List Event) (id : ClientId) (effect : Memory → Memory → Prop) : Prop :=
  ∃ earlier event, Changes events id earlier event ∧
    effect (serve earlier).memory (serve (earlier ++ [event])).memory ∧
    ∀ other another, Changes events id other another → other = earlier ∧ another = event

/-- Whether no event of a request has changed anything in the ledger: not what is committed or
staged, not the queues for rows, the counters, or the orders for failures and delays. -/
def Untouched (events : List Event) (id : ClientId) : Prop :=
  ∀ earlier event, earlier ++ [event] <+: events → event.isOf id (serve earlier) →
    (serve (earlier ++ [event])).memory = (serve earlier).memory

/-- What a response to a request tells: an effect that was had once, or that there was none. -/
inductive Told (request : Request) (never : Prop)
    (once : (Memory → Memory → Prop) → Prop) : Response → Prop
  | creates {registration : Registration} {account : Account}
      (asked : request.action = .create registration) (done : once (Founds registration account)) :
      Told request never once (createdResponse (.ok account))
  | failsToCreate {registration : Registration} {error : StoreError}
      (asked : request.action = .create registration) (undone : never) :
      Told request never once (createdResponse (.error error))
  | finds {id : AccountId} {result : Except StoreError (Option Account)}
      (asked : request.action = .find id) (undone : never) :
      Told request never once (foundResponse result)
  | lists {id : AccountId} {result : Except StoreError (Option Statement)}
      (asked : request.action = .list id) (undone : never) :
      Told request never once (listedResponse result)
  | moves {posting : Posting} {receipt : Receipt}
      (asked : request.action = .move posting.kind posting.account posting.amount)
      (done : once (posting.Commits receipt)) :
      Told request never once (movedResponse (.ok receipt))
  | failsToMove {posting : Posting} {error : PostingError}
      (asked : request.action = .move posting.kind posting.account posting.amount)
      (undone : never) :
      Told request never once (movedResponse (.error error))

theorem Told.imp {request : Request} {never stillNever : Prop}
    {once stillOnce : (Memory → Memory → Prop) → Prop} {response : Response}
    (told : Told request never once response) (still : never → stillNever)
    (kept : ∀ effect, once effect → stillOnce effect) :
    Told request stillNever stillOnce response := by
  cases told with
  | creates asked done => exact .creates asked (kept _ done)
  | failsToCreate asked undone => exact .failsToCreate asked (still undone)
  | finds asked undone => exact .finds asked (still undone)
  | lists asked undone => exact .lists asked (still undone)
  | moves asked done => exact .moves asked (kept _ done)
  | failsToMove asked undone => exact .failsToMove asked (still undone)

/-!
## Steps
-/

/-- Whether a client is the call that a request denotes. -/
def Request.Wants (request : Request) : Client → Prop
  | .posting posting _ => request.action = .move posting.kind posting.account posting.amount
  | .inquiry (.create registration _) _ => request.action = .create registration
  | .inquiry (.byId id _) _ => request.action = .find id
  | .inquiry (.statement id _) _ => request.action = .list id
  | _ => False

theorem Request.Wants.proceed {request : Request} {client : Client} (wants : request.Wants client)
    (world : World Memory) :
    request.Wants (client.proceed world).1 := by
  cases client using Client.running_or_over with
  | posting posting phase => exact wants
  | inquiry asked phase => cases asked <;> exact wants
  | hand task => cases wants
  | settled client isOver => rwa [Client.proceed_of_isOver isOver]

/-- Whether a request does what it denotes. -/
inductive Exchange.Denotes (exchange : Exchange UnitId Progress) : Prop
  | answers {response : Response} (work : exchange.work = .none response)
      (asked : exchange.request.action = .answer response)
  | calls {client : Client} (calls : exchange.work.client? = some client)
      (wants : exchange.request.Wants client)

theorem denotes_start (now timeout : Nat) (request : Request) :
    (Exchange.start Memory.store now timeout request).Denotes := by
  have client := start_client? now timeout request
  cases asked : request.action with
  | answer response =>
      refine .answers ?_ asked
      simp only [Exchange.start, asked]
  | create registration => exact .calls (client.trans (congrArg _ asked)) asked
  | find id => exact .calls (client.trans (congrArg _ asked)) asked
  | list id => exact .calls (client.trans (congrArg _ asked)) asked
  | move kind id amount => exact .calls (client.trans (congrArg _ asked)) asked

section Steps

variable {request : Request} {client : Client} {world : World Memory}

theorem Request.Wants.not_answer (wants : request.Wants client) {response : Response} :
    request.action ≠ .answer response := by
  intro asked
  cases client with
  | posting posting course => cases asked.symm.trans wants
  | inquiry inquiry course =>
      cases inquiry with
      | create registration deadline => cases asked.symm.trans wants
      | byId id deadline => cases asked.symm.trans wants
      | statement id deadline => cases asked.symm.trans wants
      | byName username deadline => cases wants
      | history id deadline => cases wants
  | hand course => cases wants

theorem isOver_of_client? {work : Work UnitId Progress} (calls : work.client? = some client) :
    client.isOver = false := by
  cases work <;> cases calls <;> rfl

private theorem result_of_found {id : AccountId} {deadline : Deadline}
    {course : Course (Query.Phase UnitId Progress (Option Account)) (Query.Result (Option Account))}
    {response : Response}
    (answered : response? (.inquiry (.byId id deadline) course) = some response) :
    ∃ result, response = foundResponse result := by
  cases course <;> cases answered
  exact ⟨_, rfl⟩

private theorem result_of_listed {id : AccountId} {deadline : Deadline}
    {course : Course (Query.Phase UnitId Progress (Option Statement))
      (Query.Result (Option Statement))}
    {response : Response}
    (answered : response? (.inquiry (.statement id deadline) course) = some response) :
    ∃ result, response = listedResponse result := by
  cases course <;> cases answered
  exact ⟨_, rfl⟩

/-- A step of a call that is not its last changes nothing that is committed, and the last one does
what the response tells. -/
structure StepTold (request : Request) (client : Client) (world : World Memory) : Prop where
  keeps : (client.proceed world).1.isOver = false →
    (client.proceed world).2.store.tables = world.store.tables
  tells : ∀ response, response? (client.proceed world).1 = some response →
    Told request ((client.proceed world).2.store.tables = world.store.tables)
      (fun effect => effect world.store (client.proceed world).2.store ∧
        (client.proceed world).2.store.tables ≠ world.store.tables) response

private theorem creating_told {registration : Registration} {deadline : Deadline}
    {phase : Query.Phase UnitId Progress Account}
    (wants : request.Wants (.inquiry (.create registration deadline) (.running phase)))
    (sound : Memory.Sound world.store)
    (drafts : (Client.inquiry (.create registration deadline) (.running phase)).Drafts
      world.store) :
    StepTold request (.inquiry (.create registration deadline) (.running phase)) world := by
  have step := Shared.create_step sound drafts
  have same : ((Client.inquiry (.create registration deadline) (.running phase)).proceed world) =
      (.inquiry (.create registration deadline)
        (.ofTurn ((Query.create registration deadline).step Memory.store phase world).1),
        ((Query.create registration deadline).step Memory.store phase world).2) := rfl
  constructor
  all_goals
    rw [same]
    generalize ((Query.create registration deadline).step Memory.store phase world).1 = turn
      at step ⊢
    rcases step with ⟨account, rfl, founds⟩ | ⟨unfounded, tables⟩
  · exact fun running => by cases running
  · exact fun _ => tables
  · rintro response ⟨⟩
    exact .creates wants ⟨founds, founds.tables_ne⟩
  · intro response answered
    rcases turn with later | later | account | error
    · cases answered
    · cases answered
    · cases answered
      exact .failsToCreate wants tables
    · exact absurd rfl (unfounded _)

private theorem finding_told {id : AccountId} {deadline : Deadline}
    {phase : Query.Phase UnitId Progress (Option Account)}
    (wants : request.Wants (.inquiry (.byId id deadline) (.running phase)))
    (drafts : (Client.inquiry (.byId id deadline) (.running phase)).Drafts world.store) :
    StepTold request (.inquiry (.byId id deadline) (.running phase)) world := by
  have tables := Shared.read_step (.byId id deadline) (fun _ _ goes => goes) drafts
  refine ⟨fun _ => tables, fun response answered => ?_⟩
  obtain ⟨result, rfl⟩ := result_of_found answered
  exact .finds wants tables

private theorem listing_told {id : AccountId} {deadline : Deadline}
    {phase : Query.Phase UnitId Progress (Option Statement)}
    (wants : request.Wants (.inquiry (.statement id deadline) (.running phase)))
    (drafts : (Client.inquiry (.statement id deadline) (.running phase)).Drafts world.store) :
    StepTold request (.inquiry (.statement id deadline) (.running phase)) world := by
  have tables := Shared.read_step (.statement id deadline) (fun _ _ goes => goes) drafts
  refine ⟨fun _ => tables, fun response answered => ?_⟩
  obtain ⟨result, rfl⟩ := result_of_listed answered
  exact .lists wants tables

private theorem moving_told {posting : Posting} {phase : Posting.Phase UnitId Progress}
    (wants : request.Wants (.posting posting (.running phase)))
    (fits : (Course.running phase).Fits posting world.store) :
    StepTold request (.posting posting (.running phase)) world := by
  obtain ⟨next, same, step⟩ := Shared.own_proceed fits
  constructor
  all_goals
    rw [same]
    cases step
  case keeps.commits => exact fun running => by cases running
  case keeps.spares tables unpaid => exact fun _ => tables
  case keeps.rests tables => exact fun _ => tables
  case tells.commits commits =>
    rintro response ⟨⟩
    exact .moves wants ⟨commits, commits.tables_ne⟩
  case tells.spares tables unpaid =>
    intro response answered
    rcases next with later | (error | receipt) | _
    · cases answered
    · cases answered
      exact .failsToMove wants tables
    · exact absurd rfl (unpaid receipt)
    · cases answered
  case tells.rests tables =>
    intro response answered
    cases answered

theorem call_told {work : Work UnitId Progress} (calls : work.client? = some client)
    (wants : request.Wants client) (sound : Memory.Sound world.store)
    (fits : client.Fits world.store) (drafts : client.Drafts world.store) :
    StepTold request client world := by
  cases work with
  | none response => cases calls
  | creating registration deadline phase =>
      cases calls
      exact creating_told wants sound drafts
  | finding id deadline phase =>
      cases calls
      exact finding_told wants drafts
  | listing id deadline phase =>
      cases calls
      exact listing_told wants drafts
  | moving posting phase =>
      cases calls
      exact moving_told wants fits

end Steps

/-!
## Runs
-/

def Visit.request : Visit → Request
  | .answering exchange => exchange.request
  | .answered request _ => request
  | .dropped request => request

/-- What has become of a request. -/
inductive Came (events : List Event) (id : ClientId) : Visit → Prop
  | answering {exchange : Exchange UnitId Progress} (denotes : exchange.Denotes)
      (undone : ¬ Committed events id) :
      Came events id (.answering exchange)
  | atOnce {request : Request} {response : Response} (asked : request.action = .answer response) :
      Came events id (.answered request ⟨request.id, Exchange.sent request response⟩)
  | answered {request : Request} {response : Response}
      (told : Told request (¬ Committed events id) (CommittedOnce events id) response) :
      Came events id (.answered request ⟨request.id, Exchange.sent request response⟩)
  | dropped {request : Request} (undone : ¬ Committed events id) : Came events id (.dropped request)

/-- What has become of a request and what it has done. -/
structure Accounted (events : List Event) (id : ClientId) (visit : Visit) : Prop where
  came : Came events id visit
  untouched : ∀ response, visit.request.action = .answer response → Untouched events id

variable {events earlier : List Event} {event : Event} {id : ClientId} {visit : Visit}

theorem changes_append {another : Event} :
    Changes (events ++ [event]) id earlier another ↔ Changes events id earlier another ∨
      (earlier = events ∧ another = event ∧ event.isOf id (serve events) ∧
        ((serve events).perform event).memory.tables ≠ (serve events).memory.tables) := by
  have now := serve_append events event
  constructor
  · rintro ⟨taken, own, changed⟩
    rcases List.prefix_concat_iff.mp taken with last | old
    · obtain ⟨rfl, same⟩ := List.append_inj' last rfl
      cases same
      rw [now] at changed
      exact .inr ⟨rfl, rfl, own, changed⟩
    · exact .inl ⟨old, own, changed⟩
  · rintro (old | ⟨rfl, rfl, own, changed⟩)
    · exact ⟨old.taken.trans (List.prefix_append events [event]), old.own, old.changed⟩
    · rw [← now] at changed
      exact ⟨List.prefix_rfl, own, changed⟩

theorem untouched_append : Untouched (events ++ [event]) id ↔ Untouched events id ∧
    (event.isOf id (serve events) → ((serve events).perform event).memory =
      (serve events).memory) := by
  have now := serve_append events event
  constructor
  · intro untouched
    refine ⟨fun earlier another taken own =>
      untouched earlier another (taken.trans (List.prefix_append _ _)) own, fun own => ?_⟩
    rw [← now]
    exact untouched events event List.prefix_rfl own
  · rintro ⟨untouched, still⟩ earlier another taken own
    rcases List.prefix_concat_iff.mp taken with last | old
    · obtain ⟨rfl, same⟩ := List.append_inj' last rfl
      cases same
      rw [now]
      exact still own
    · exact untouched earlier another old own

/-- Whether an event leaves the committed ledger alone, as far as it is one of a request. -/
def Spares (events : List Event) (id : ClientId) (event : Event) : Prop :=
  event.isOf id (serve events) → ((serve events).perform event).memory.tables =
    (serve events).memory.tables

private theorem changes_of_spares {another : Event} (spares : Spares events id event) :
    Changes (events ++ [event]) id earlier another ↔ Changes events id earlier another := by
  rw [changes_append]
  exact or_iff_left fun new => new.2.2.2 (spares new.2.2.1)

theorem not_committed_append (undone : ¬ Committed events id) (spares : Spares events id event) :
    ¬ Committed (events ++ [event]) id := by
  rintro ⟨earlier, another, changes⟩
  exact undone ⟨earlier, another, (changes_of_spares spares).mp changes⟩

theorem CommittedOnce.spared {effect : Memory → Memory → Prop}
    (once : CommittedOnce events id effect) (spares : Spares events id event) :
    CommittedOnce (events ++ [event]) id effect := by
  obtain ⟨earlier, another, changes, done, only⟩ := once
  exact ⟨earlier, another, (changes_of_spares spares).mpr changes, done, fun other later more =>
    only other later ((changes_of_spares spares).mp more)⟩

/-- The event with which a request commits, if it has not done so before. -/
theorem committedOnce_append {effect : Memory → Memory → Prop} (undone : ¬ Committed events id)
    (own : event.isOf id (serve events))
    (changed : ((serve events).perform event).memory.tables ≠ (serve events).memory.tables)
    (done : effect (serve events).memory ((serve events).perform event).memory) :
    CommittedOnce (events ++ [event]) id effect := by
  refine ⟨events, event, changes_append.mpr (.inr ⟨rfl, rfl, own, changed⟩),
    serve_append events event ▸ done, ?_⟩
  intro other another changes
  rcases changes_append.mp changes with old | new
  · exact absurd ⟨other, another, old⟩ undone
  · exact ⟨new.1, new.2.1⟩

theorem Came.spared (came : Came events id visit) (spares : Spares events id event) :
    Came (events ++ [event]) id visit := by
  cases came with
  | answering denotes undone => exact .answering denotes (not_committed_append undone spares)
  | atOnce asked => exact .atOnce asked
  | answered told =>
      exact .answered
        (told.imp (not_committed_append · spares) fun effect once => once.spared spares)
  | dropped undone => exact .dropped (not_committed_append undone spares)

theorem Accounted.spared (accounted : Accounted events id visit)
    (still : event.isOf id (serve events) → ((serve events).perform event).memory =
      (serve events).memory) :
    Accounted (events ++ [event]) id visit where
  came := accounted.came.spared fun own => congrArg Memory.tables (still own)
  untouched response asked := untouched_append.mpr ⟨accounted.untouched response asked, still⟩

theorem arrived_serve (events : List Event) (id : ClientId)
    (present : (serve events).visits id ≠ none) :
    id.number ≤ (serve events).lastVisit := by
  induction events using List.reverseRecOn with
  | nil => exact absurd rfl present
  | append_singleton events event ih =>
      rw [serve_append] at present ⊢
      have stays : ∀ {actor : ClientId} {another : Visit} (visit : Visit),
        (serve events).visits actor = some another →
          assign (serve events).visits actor (some visit) id ≠ none →
            id.number ≤ (serve events).lastVisit := by
        intro actor another visit known present
        by_cases same : id = actor
        · exact ih (by simp [same, known])
        · exact ih (assign_other (serve events).visits (some visit) same ▸ present)
      cases event with
      | wait milliseconds => exact ih present
      | failNext point => exact ih present
      | delayNext point milliseconds => exact ih present
      | arrive request timeout =>
          by_cases new : id = ⟨(serve events).lastVisit + 1⟩
          · exact new ▸ Nat.le_refl _
          · simp only [Service.perform, assign_other _ _ new] at present
            exact Nat.le_succ_of_le (ih present)
      | proceed actor =>
          by_cases answering : ∃ exchange, (serve events).visits actor = some (.answering exchange)
          · obtain ⟨exchange, known⟩ := answering
            rw [Service.perform_proceed known] at present ⊢
            exact stays _ known present
          · rw [Service.perform_proceed_idle (not_exists.mp answering)] at present ⊢
            exact ih present
      | giveUp actor =>
          by_cases answering : ∃ exchange, (serve events).visits actor = some (.answering exchange)
          · obtain ⟨exchange, known⟩ := answering
            rw [Service.perform_giveUp known] at present ⊢
            exact stays _ known present
          · rw [Service.perform_giveUp_idle (not_exists.mp answering)] at present ⊢
            exact ih present

/-- A step of a request that is being answered. -/
private theorem accounted_proceed {exchange : Exchange UnitId Progress}
    (known : (serve events).visits id = some (.answering exchange))
    (accounted : Accounted events id (.answering exchange)) :
    Accounted (events ++ [.proceed id]) id
      (.ofTurn exchange.request (exchange.step Memory.store (serve events).world).1) := by
  have memory : ((serve events).perform (.proceed id)).memory =
      (exchange.step Memory.store (serve events).world).2.store := by
    rw [Service.memory, Service.perform_proceed known]
  obtain ⟨came, untouched⟩ := accounted
  cases came with
  | answering denotes undone =>
      have move := exchange.step_move (serve events).world
      rw [← memory] at move
      generalize Visit.ofTurn exchange.request (exchange.step Memory.store (serve events).world).1 =
        visit at move ⊢
      generalize left : ((serve events).perform (.proceed id)).memory = after at move
      have kept := kept_serve events
      have wanted : ∀ client, exchange.work.client? = some client →
          exchange.request.Wants client := by
        intro client calls
        cases denotes with
        | answers work asked =>
            rw [work] at calls
            cases calls
        | calls same wants =>
            cases same.symm.trans calls
            exact wants
      have told : ∀ client, exchange.work.client? = some client →
          StepTold exchange.request client (serve events).world := fun client calls =>
        have clientKnown := Service.ledger_known known calls
        call_told calls (wanted client calls) kept.owned.sound (kept.fits id client clientKnown)
          (kept.drafts id client clientKnown)
      cases move with
      | answers work =>
          cases denotes with
          | answers same asked =>
              cases work.symm.trans same
              exact ⟨.atOnce asked,
                fun response asked =>
                untouched_append.mpr ⟨untouched response asked, fun _ => left⟩⟩
          | calls calls wants =>
              rw [work] at calls
              cases calls
      | @goesOn client work calls next =>
          have wants := wanted client calls
          have tables := (told client calls).keeps (isOver_of_client? next)
          refine ⟨.answering (.calls next (wants.proceed _))
            (not_committed_append undone fun _ => ?_),
            fun response asked => absurd asked wants.not_answer⟩
          rw [left]
          exact tables
      | @ends client response calls answered =>
          have wants := wanted client calls
          refine ⟨.answered (((told client calls).tells response answered).imp ?_ ?_),
            fun response asked => absurd asked wants.not_answer⟩
          · intro tables
            refine not_committed_append undone fun _ => ?_
            rw [left]
            exact tables
          · rintro effect ⟨done, changed⟩
            refine committedOnce_append undone rfl ?_ ?_
            · rw [left]
              exact changed
            · rw [left]
              exact done

/-- A request that is dropped while it is being answered. -/
private theorem accounted_giveUp {exchange : Exchange UnitId Progress}
    (known : (serve events).visits id = some (.answering exchange))
    (accounted : Accounted events id (.answering exchange)) :
    Accounted (events ++ [.giveUp id]) id (.dropped exchange.request) := by
  have memory : ((serve events).perform (.giveUp id)).memory =
      (exchange.giveUp Memory.store (serve events).world).store := by
    rw [Service.memory, Service.perform_giveUp known]
  obtain ⟨came, untouched⟩ := accounted
  cases came with
  | answering denotes undone =>
      cases calls : exchange.work.client? with
      | none =>
          rw [Exchange.giveUp_none calls] at memory
          exact ⟨.dropped (not_committed_append undone fun _ => congrArg Memory.tables memory),
            fun response asked => untouched_append.mpr ⟨untouched response asked, fun _ => memory⟩⟩
      | some client =>
          have left := congrArg World.store (Exchange.giveUp_client calls (serve events).world).1
          refine ⟨.dropped (not_committed_append undone fun _ => ?_), fun response asked => ?_⟩
          · rw [memory, left]
            exact client.giveUp_tables _
          · cases denotes with
            | answers work _ =>
                rw [work] at calls
                cases calls
            | calls _ wants => exact absurd asked wants.not_answer

/-- What is known of a request at every moment: before it arrives it has done nothing, and then it
has done what its answer tells. -/
structure Followed (events : List Event) (id : ClientId) : Prop where
  before : (serve events).visits id = none → Untouched events id
  after : ∀ visit, (serve events).visits id = some visit → Accounted events id visit

/-- An event of no concern to a request leaves its visit and its account alone. -/
private theorem Followed.spared (followed : Followed events id)
    (same : (serve (events ++ [event])).visits id = (serve events).visits id)
    (still : event.isOf id (serve events) → ((serve events).perform event).memory =
      (serve events).memory) :
    Followed (events ++ [event]) id where
  before absent := untouched_append.mpr ⟨followed.before (same.symm.trans absent), still⟩
  after visit known := (followed.after visit (same.symm.trans known)).spared still

/-- An event of a request itself gives it a new visit. -/
private theorem Accounted.followed (accounted : Accounted events id visit)
    (known : (serve events).visits id = some visit) :
    Followed events id where
  before absent := by cases absent.symm.trans known
  after another same := by
    cases same.symm.trans known
    exact accounted

theorem followed_serve (events : List Event) (id : ClientId) : Followed events id := by
  induction events using List.reverseRecOn with
  | nil =>
      refine ⟨fun _ earlier event taken => ?_, fun visit known => by cases known⟩
      have empty := taken.length_le
      simp at empty
  | append_singleton events event ih =>
      have now := serve_append events event
      cases event with
      | wait milliseconds => exact ih.spared (by rw [now]; rfl) False.elim
      | failNext point => exact ih.spared (by rw [now]; rfl) False.elim
      | delayNext point milliseconds => exact ih.spared (by rw [now]; rfl) False.elim
      | arrive request timeout =>
          by_cases new : id = ⟨(serve events).lastVisit + 1⟩
          · have absent : (serve events).visits id = none := by
              by_contra present
              have arrived := arrived_serve events id present
              rw [new] at arrived
              exact Nat.not_succ_le_self _ arrived
            have untouched : Untouched (events ++ [.arrive request timeout]) id :=
              untouched_append.mpr ⟨ih.before absent, fun _ => rfl⟩
            have uncommitted : ¬ Committed (events ++ [.arrive request timeout]) id :=
              fun ⟨earlier, another, changes⟩ =>
              changes.changed
                (congrArg Memory.tables (untouched earlier another changes.taken changes.own))
            exact Accounted.followed ⟨.answering (denotes_start _ _ request) uncommitted,
              fun _ _ => untouched⟩ (by rw [now, new]; exact assign_same _ _ _)
          · exact ih.spared (by rw [now]; exact assign_other _ _ new) fun _ => rfl
      | proceed actor =>
          by_cases answering : ∃ exchange, (serve events).visits actor = some (.answering exchange)
          · obtain ⟨exchange, known⟩ := answering
            rw [Service.perform_proceed known] at now
            by_cases same : id = actor
            · subst same
              exact (accounted_proceed known (ih.after _ known)).followed
                (by rw [now]; exact assign_same _ _ _)
            · exact ih.spared (by rw [now]; exact assign_other _ _ same) fun mine =>
                absurd mine.symm same
          · have idle := Service.perform_proceed_idle (not_exists.mp answering)
            exact ih.spared (by rw [now, idle]) fun _ => congrArg Service.memory idle
      | giveUp actor =>
          by_cases answering : ∃ exchange, (serve events).visits actor = some (.answering exchange)
          · obtain ⟨exchange, known⟩ := answering
            rw [Service.perform_giveUp known] at now
            by_cases same : id = actor
            · subst same
              exact (accounted_giveUp known (ih.after _ known)).followed
                (by rw [now]; exact assign_same _ _ _)
            · exact ih.spared (by rw [now]; exact assign_other _ _ same) fun mine =>
                absurd mine.symm same
          · have idle := Service.perform_giveUp_idle (not_exists.mp answering)
            exact ih.spared (by rw [now, idle]) fun _ => congrArg Service.memory idle

end Passbook.Http
