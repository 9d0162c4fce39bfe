import Passbook.Proofs.Calls.Veiled
import Passbook.Proofs.Http.Service
import Passbook.Proofs.Shared.MirrorSteps

/-!
Password hashes over HTTP. Two runs of the service whose requests differ in nothing but the hashes
of the accounts that they open give the same answers and report the same events. Both are compared
with a third one, in which every hash is covered.
-/

set_option autoImplicit false

namespace Passbook

namespace SameResult

variable {ε φ α β : Type} {same : α → α → Prop} {other : β → β → Prop} {one two : Except ε α}

theorem bind {next another : α → Except ε β} (results : SameResult same one two)
    (goesOn : ∀ first second, same first second → SameResult other (next first) (another second)) :
    SameResult other (one >>= next) (two >>= another) := by
  cases results with
  | fails error => exact .fails error
  | succeeds related => exact goesOn _ _ related

theorem mapError (results : SameResult same one two) (change : ε → φ) :
    SameResult same (one.mapError change) (two.mapError change) := by
  cases results with
  | fails error => exact .fails (change error)
  | succeeds related => exact .succeeds related

end SameResult

/-- Of two registrations under one name neither is refused, or both are for the same reason,
whatever their hashes. -/
theorem Registration.make_alike (username : String) {hash other : String} (hashed : hash ≠ "")
    (otherHashed : other ≠ "") :
    SameResult (fun registration twin => registration.username = twin.username) (make username hash)
      (make username other) := by
  unfold make
  by_cases named : Text.trim username.toList ≠ []
  · by_cases short : (Text.trim username.toList).length ≤ maxUsernameLength
    · simp only [named, short, hashed, otherHashed, dif_pos, ne_eq, not_false_eq_true]
      exact .succeeds rfl
    · simp only [named, short, dif_pos, dif_neg, ne_eq, not_false_eq_true]
      exact .fails _
  · simp only [named, dif_neg, not_false_eq_true]
    exact .fails _

namespace Http

open Memory (Progress cover)
open Shared (ClientId)

/-!
## Requests
-/

/-- Whether the body of a request names an account to be opened, with some password hash. -/
def Request.Names (request : Request) (username : String) : Prop :=
  ∃ hash rest, hash ≠ "" ∧ AccountBody.readJson (Text.decodeUtf8 request.body) =
    .ok (⟨username, hash⟩, rest)

/-- Whether two requests differ in nothing but the hash of the account that they open. A header may
announce the length of the body, so that header may differ too; but either both bodies are too long
to be read or neither is. -/
inductive Request.Alike : Request → Request → Prop
  | same (request : Request) : Alike request request
  | opens {one other : Request} (username : String) (method : one.method = other.method)
      (target : one.target = other.target)
      (headers : ∀ name, name ≠ "content-length" → one.header? name = other.header? name)
      (path : Resource.ofPath? one.path = some .accounts)
      (sizes : maxBodyLength < one.body.length ↔ maxBodyLength < other.body.length)
      (names : one.Names username) (otherNames : other.Names username) : Alike one other

/-- Whether two requests ask for the same, but for the hash of the account that they open. -/
inductive Action.Alike : Action → Action → Prop
  | same (action : Action) : Alike action action
  | opens {registration twin : Registration} (named : registration.username = twin.username) :
      Alike (.create registration) (.create twin)

variable {one other : Request}

theorem Request.Alike.method (alike : one.Alike other) : one.method = other.method := by
  cases alike with
  | same => rfl
  | opens username method => exact method

theorem Request.Alike.id (alike : one.Alike other) : one.id = other.id := by
  cases alike with
  | same => rfl
  | opens username method target headers =>
      rw [Request.id, Request.id, headers "x-request-id" (by decide)]

/-- Two bodies that have been read, with the same name and some hash each. -/
structure AccountBody.Alike (username : String) (one other : AccountBody) : Prop where
  one : one.username = username ∧ one.passwordHash ≠ ""
  other : other.username = username ∧ other.passwordHash ≠ ""

private theorem readBody_alike {username : String}
    (headers : one.header? "content-type" = other.header? "content-type")
    (sizes : Request.maxBodyLength < one.body.length ↔ Request.maxBodyLength < other.body.length)
    (names : one.Names username) (otherNames : other.Names username) :
    SameResult (AccountBody.Alike username) (one.readBody AccountBody.readJson)
      (other.readBody AccountBody.readJson) := by
  obtain ⟨hash, rest, hashed, read⟩ := names
  obtain ⟨twin, twinRest, twinHashed, twinRead⟩ := otherNames
  unfold Request.readBody
  simp only [headers, sizes, read, twinRead]
  split
  · exact .fails _
  · split
    · exact .fails _
    · exact .succeeds ⟨⟨rfl, hashed⟩, ⟨rfl, twinHashed⟩⟩

private theorem actionOn_alike {username : String}
    (headers : one.header? "content-type" = other.header? "content-type")
    (sizes : Request.maxBodyLength < one.body.length ↔ Request.maxBodyLength < other.body.length)
    (names : one.Names username) (otherNames : other.Names username) :
    SameResult Action.Alike (one.actionOn .accounts) (other.actionOn .accounts) := by
  refine (readBody_alike headers sizes names otherNames).bind fun body twin bodies => ?_
  obtain ⟨⟨named, hashed⟩, twinNamed, twinHashed⟩ := bodies
  rw [named, twinNamed]
  refine ((Registration.make_alike username hashed twinHashed).mapError LedgerError.response).bind
    fun registration twin same => ?_
  exact .succeeds (.opens same)

theorem Request.Alike.action (alike : one.Alike other) : one.action.Alike other.action := by
  cases alike with
  | same => exact .same _
  | opens username method target headers path sizes names otherNames =>
      have otherPath : Resource.ofPath? other.path = some .accounts := by
        rw [← path, Request.path, Request.path, target]
      unfold Request.action
      rw [path, otherPath]
      simp only [method]
      split
      · have asked := actionOn_alike (headers "content-type" (by decide)) sizes names otherNames
        generalize one.actionOn .accounts = first, other.actionOn .accounts = second at asked ⊢
        cases asked with
        | fails refusal => exact .same _
        | succeeds alike => exact alike
      · exact .same _

/-!
## Answers
-/

/-- Whether one call is the other with the hashes covered. -/
inductive Work.Veils : Work UnitId Progress → Work UnitId Progress → Prop
  | none (response : Response) : Veils (.none response) (.none response)
  | creating (registration : Registration) (deadline : Deadline)
      {phase twin : Query.Phase UnitId Progress Account}
      (phases : phase.Veils Account.veiled twin) :
      Veils (.creating registration deadline phase) (.creating registration.veiled deadline twin)
  | finding (id : AccountId) (deadline : Deadline)
      {phase twin : Query.Phase UnitId Progress (Option Account)}
      (phases : phase.Veils (Option.map Account.veiled) twin) :
      Veils (.finding id deadline phase) (.finding id deadline twin)
  | listing (id : AccountId) (deadline : Deadline)
      {phase twin : Query.Phase UnitId Progress (Option Statement)}
      (phases : phase.Veils (Option.map Query.veilStatement) twin) :
      Veils (.listing id deadline phase) (.listing id deadline twin)
  | moving (posting : Posting) (phase : Posting.Phase UnitId Progress) :
      Veils (.moving posting phase) (.moving posting phase)

/-- Whether one request is answered like the other with the hashes covered. Of the requests
themselves only what the answers depend on is the same. -/
structure Exchange.Veils (exchange twin : Exchange UnitId Progress) : Prop where
  method : twin.request.method = exchange.request.method
  sameId : twin.request.id = exchange.request.id
  work : exchange.work.Veils twin.work

namespace Exchange

variable {exchange twin : Exchange UnitId Progress} {request other : Request}

private theorem finish_beside (method : other.method = request.method)
    (sameId : other.id = request.id) (response : Response) (world : World Memory) :
    finish other response (cover world) = coverStep (finish request response world) := by
  have same : sent other response = sent request response := by rw [sent, sent, method]
  unfold finish
  rw [same, sameId]
  rfl

private theorem afterStep_beside {κ ρ : Type} {calls : κ → κ → Prop} {change : ρ → ρ}
    {rest another : κ → Work UnitId Progress} {report : ρ → World Memory → World Memory}
    {respond : ρ → Response} {step twin : Turn κ ρ × World Memory}
    (method : other.method = request.method) (sameId : other.id = request.id)
    (steps : StepsBeside calls change step twin)
    (rests : ∀ call twin, calls call twin → (rest call).Veils (another twin))
    (reports : ∀ result world, report (change result) (cover world) = cover (report result world))
    (responds : ∀ result, respond (change result) = respond result) :
    StepsBeside Veils id (afterStep request rest report respond step)
      (afterStep other another report respond twin) := by
  obtain ⟨turn, left⟩ := step
  obtain ⟨twinTurn, right⟩ := twin
  obtain ⟨turns, rfl⟩ := steps
  cases turns with
  | rests beside => exact ⟨.rests ⟨method, sameId, rests _ _ beside⟩, rfl⟩
  | proceeds beside => exact ⟨.proceeds ⟨method, sameId, rests _ _ beside⟩, rfl⟩
  | ends result =>
      have finished := finish_beside method sameId (respond result) (report result left)
      simp only [afterStep, reports, responds, finished]
      exact ⟨.ends _, rfl⟩

private theorem reportFault_veiled {α : Type} (change : α → α) (result : Except StoreError α)
    (world : World Memory) :
    reportFault (result.map change) (cover world) = cover (reportFault result world) := by
  have reported : ∀ (events : List Log.Event) (world : World Memory),
      events.foldl World.report (cover world) = cover (events.foldl World.report world) := by
    intro events
    induction events with
    | nil => exact fun _ => rfl
    | cons event events ih => exact fun world => ih (world.report event)
  cases result with
  | ok answer => rfl
  | error error => exact reported _ world

/-- A request takes the same step with the hashes covered, and gets the same answer. -/
theorem Veils.step (veils : exchange.Veils twin) (world : World Memory) :
    StepsBeside Veils id (exchange.step Memory.store world)
      (twin.step Memory.store (cover world)) := by
  obtain ⟨request, work⟩ := exchange
  obtain ⟨other, twinWork⟩ := twin
  obtain ⟨method, sameId, works⟩ := veils
  cases works with
  | none response =>
      simp only [Exchange.step, finish_beside method sameId]
      exact ⟨.ends _, rfl⟩
  | creating registration deadline phases =>
      refine afterStep_beside method sameId
        (Query.step_beside (Query.create_veils registration deadline) phases)
        (fun _ _ => .creating registration deadline) (reportFault_veiled _) fun result => ?_
      cases result <;> rfl
  | finding account deadline phases =>
      refine afterStep_beside method sameId
        (Query.step_beside (Query.byId_veils account deadline) phases)
        (fun _ _ => .finding account deadline) (reportFault_veiled _) fun result => ?_
      rcases result with error | _ | account <;> rfl
  | listing account deadline phases =>
      refine afterStep_beside method sameId
        (Query.step_beside (Query.statement_veils account deadline) phases)
        (fun _ _ => .listing account deadline) (reportFault_veiled _) fun result => ?_
      rcases result with error | _ | statement <;> rfl
  | moving posting phase =>
      refine afterStep_beside method sameId (posting.step_beside phase world) ?_
        (fun _ _ => rfl) fun _ => rfl
      rintro call _ rfl
      exact .moving posting call

theorem Veils.giveUp (veils : exchange.Veils twin) (world : World Memory) :
    twin.giveUp Memory.store (cover world) = cover (exchange.giveUp Memory.store world) := by
  obtain ⟨request, work⟩ := exchange
  obtain ⟨other, twinWork⟩ := twin
  obtain ⟨method, sameId, works⟩ := veils
  cases works with
  | none response => rfl
  | creating registration deadline phases => exact Query.giveUp_veils phases world
  | finding account deadline phases => exact Query.giveUp_veils phases world
  | listing account deadline phases => exact Query.giveUp_veils phases world
  | moving posting phase => exact posting.giveUp_veiled phase world

/-- Requests that differ in nothing but a hash are begun to be answered in the same way, with the
hash covered. -/
theorem start_alike (alike : request.Alike other) (now timeout : Nat) :
    ∃ common, (start Memory.store now timeout request).Veils common ∧
      (start Memory.store now timeout other).Veils common := by
  have opening : ∀ {α : Type} (veil : α → α),
      Query.Phase.Veils veil (Query.start Memory.store) (Query.start Memory.store) :=
    fun veil => .opening .fresh
  have action := alike.action
  have works : ∃ work, (start Memory.store now timeout request).work.Veils work ∧
      (start Memory.store now timeout other).work.Veils work := by
    simp only [start]
    generalize request.action = first, other.action = second at action ⊢
    cases action with
    | same =>
        cases first with
        | answer response => exact ⟨_, .none response, .none response⟩
        | create registration =>
            exact ⟨_, .creating registration _ (opening _), .creating registration _ (opening _)⟩
        | find account => exact ⟨_, .finding account _ (opening _), .finding account _ (opening _)⟩
        | list account => exact ⟨_, .listing account _ (opening _), .listing account _ (opening _)⟩
        | move kind account amount => exact ⟨_, .moving _ _, .moving _ _⟩
    | @opens registration twin named =>
        refine ⟨_, .creating registration _ (opening _), ?_⟩
        rw [Registration.veiled_eq named]
        exact .creating twin _ (opening _)
  obtain ⟨work, veils, twinVeils⟩ := works
  exact ⟨⟨request, work⟩, ⟨rfl, rfl, veils⟩, ⟨alike.method, alike.id, twinVeils⟩⟩

end Exchange

/-!
## Runs
-/

/-- Whether one request has come as far as the other with the hashes covered. -/
inductive Visit.Veils : Visit → Visit → Prop
  | answering {exchange twin : Exchange UnitId Progress} (exchanges : exchange.Veils twin) :
      Veils (.answering exchange) (.answering twin)
  | answered (request twin : Request) (answer : Answer) :
      Veils (.answered request answer) (.answered twin answer)
  | dropped (request twin : Request) : Veils (.dropped request) (.dropped twin)

/-- Whether one service has come as far as the other with the hashes covered. -/
structure Service.Veils (service twin : Service) : Prop where
  world : twin.world = cover service.world
  visits : ∀ id, Option.Rel Visit.Veils (service.visits id) (twin.visits id)
  lastVisit : twin.lastVisit = service.lastVisit

theorem Visit.veils_ofTurn {request twin : Request}
    {turn other : Turn (Exchange UnitId Progress) Answer}
    (turns : turn.Beside Exchange.Veils id other) :
    (Visit.ofTurn request turn).Veils (.ofTurn twin other) := by
  cases turns with
  | rests beside => exact .answering beside
  | proceeds beside => exact .answering beside
  | ends answer => exact .answered request twin answer

/-- The answer to a request, once there is one. -/
def Visit.answer? : Visit → Option Answer
  | .answered _ answer => some answer
  | _ => none

namespace Service.Veils

variable {service twin : Service}

theorem assigned {visit other : Visit} (veils : service.Veils twin) (visits : visit.Veils other)
    (id another : ClientId) :
    Option.Rel Visit.Veils (assign service.visits id (some visit) another)
      (assign twin.visits id (some other) another) := by
  by_cases same : another = id
  · rw [same, assign_same, assign_same]
    exact .some visits
  · rw [assign_other _ _ same, assign_other _ _ same]
    exact veils.visits another

private theorem answering_or_idle (veils : service.Veils twin) (id : ClientId) :
    (∃ exchange other, service.visits id = some (.answering exchange) ∧
      twin.visits id = some (.answering other) ∧
        exchange.Veils other) ∨
      ((∀ exchange, service.visits id ≠ some (.answering exchange)) ∧
        ∀ exchange, twin.visits id ≠ some (.answering exchange)) := by
  have known := veils.visits id
  generalize service.visits id = visit, twin.visits id = other at known ⊢
  cases known with
  | none => exact .inr ⟨by simp, by simp⟩
  | some visits =>
      cases visits with
      | answering exchanges => exact .inl ⟨_, _, rfl, rfl, exchanges⟩
      | answered request twin answer => exact .inr ⟨by simp, by simp⟩
      | dropped request twin => exact .inr ⟨by simp, by simp⟩

private theorem proceed (veils : service.Veils twin) (id : ClientId) :
    (service.perform (.proceed id)).Veils (twin.perform (.proceed id)) := by
  rcases veils.answering_or_idle id
    with ⟨exchange, other, known, twinKnown, exchanges⟩ | ⟨idle, twinIdle⟩
  · have steps := exchanges.step service.world
    rw [← veils.world] at steps
    rw [perform_proceed known, perform_proceed twinKnown]
    exact ⟨steps.worlds, veils.assigned (Visit.veils_ofTurn steps.turns) id, veils.lastVisit⟩
  · rwa [perform_proceed_idle idle, perform_proceed_idle twinIdle]

private theorem giveUp (veils : service.Veils twin) (id : ClientId) :
    (service.perform (.giveUp id)).Veils (twin.perform (.giveUp id)) := by
  rcases veils.answering_or_idle id
    with ⟨exchange, other, known, twinKnown, exchanges⟩ | ⟨idle, twinIdle⟩
  · have given := exchanges.giveUp service.world
    rw [← veils.world] at given
    rw [perform_giveUp known, perform_giveUp twinKnown]
    exact ⟨given, veils.assigned (.dropped _ _) id, veils.lastVisit⟩
  · rwa [perform_giveUp_idle idle, perform_giveUp_idle twinIdle]

private theorem sets (veils : service.Veils twin) (change : World Memory → World Memory)
    (same : ∀ world, change (cover world) = cover (change world)) :
    ({ service with world := change service.world } : Service).Veils
      { twin with world := change twin.world } where
  world := by
    rw [veils.world]
    exact same service.world
  visits := veils.visits
  lastVisit := veils.lastVisit

private theorem arrive {exchange : Exchange UnitId Progress} (veils : service.Veils twin)
    (request : Request) (timeout : Nat)
    (exchanges : (Exchange.start Memory.store service.world.now timeout request).Veils exchange) :
    (service.perform (.arrive request timeout)).Veils { twin with
      visits := assign twin.visits ⟨twin.lastVisit + 1⟩ (some (.answering exchange))
      lastVisit := twin.lastVisit + 1 } where
  world := veils.world
  visits id := by
    rw [veils.lastVisit]
    exact veils.assigned (.answering exchanges) _ id
  lastVisit := congrArg (· + 1) veils.lastVisit

theorem answer? (veils : service.Veils twin) (id : ClientId) :
    (service.visits id).bind Visit.answer? = (twin.visits id).bind Visit.answer? := by
  have known := veils.visits id
  generalize service.visits id = visit, twin.visits id = other at known ⊢
  cases known with
  | none => rfl
  | some visits => cases visits <;> rfl

theorem start : Service.start.Veils .start where
  world := rfl
  visits _ := .none
  lastVisit := rfl

theorem events (veils : service.Veils twin) : twin.world.events = service.world.events := by
  rw [veils.world]
  rfl

end Service.Veils

/-- Whether two events are the same, but for the hash in a request that arrives. -/
inductive Event.Alike : Event → Event → Prop
  | same (event : Event) : Alike event event
  | arrive {one other : Request} (alike : one.Alike other) (timeout : Nat) :
      Alike (.arrive one timeout) (.arrive other timeout)

/-- Two services that have come equally far, but for the hashes in them. -/
def Service.Alike (left right : Service) : Prop := ∃ common, left.Veils common ∧ right.Veils common

theorem Service.Alike.perform {left right : Service} {event twin : Event} (alike : left.Alike right)
    (events : event.Alike twin) :
    (left.perform event).Alike (right.perform twin) := by
  obtain ⟨common, veils, twinVeils⟩ := alike
  have arrives : ∀ {one other : Request} (timeout : Nat), one.Alike other →
      (left.perform (.arrive one timeout)).Alike (right.perform (.arrive other timeout)) := by
    intro one other timeout requests
    have now : right.world.now = left.world.now := by
      rw [← Memory.now_cover right.world, ← twinVeils.world, veils.world, Memory.now_cover]
    obtain ⟨exchange, begun, twinBegun⟩ := Exchange.start_alike requests left.world.now timeout
    rw [← now] at twinBegun
    exact ⟨_, veils.arrive one timeout begun, twinVeils.arrive other timeout twinBegun⟩
  have sets : ∀ change : World Memory → World Memory,
    (∀ world, change (cover world) = cover (change world)) →
      ({ left with world := change left.world } : Service).Alike
        { right with world := change right.world } :=
    fun change same => ⟨_, veils.sets change same, twinVeils.sets change same⟩
  cases events with
  | arrive requests timeout => exact arrives timeout requests
  | same =>
      cases event with
      | arrive request timeout => exact arrives timeout (.same request)
      | wait milliseconds =>
          exact sets (fun world => { world with now := world.now + milliseconds }) fun _ => rfl
      | failNext point => exact sets (Memory.update · (·.failNext point)) fun _ => rfl
      | delayNext point milliseconds =>
          exact sets (Memory.update · (·.delayNext point milliseconds)) fun _ => rfl
      | proceed id => exact ⟨_, veils.proceed id, twinVeils.proceed id⟩
      | giveUp id => exact ⟨_, veils.giveUp id, twinVeils.giveUp id⟩

theorem alike_serve {left right : List Event} (alike : List.Forall₂ Event.Alike left right) :
    (serve left).Alike (serve right) := by
  have onwards : ∀ (one other : Service), one.Alike other →
      (left.foldl Service.perform one).Alike (right.foldl Service.perform other) := by
    induction alike with
    | nil => exact fun _ _ same => same
    | cons first rest ih => exact fun one other same => ih _ _ (same.perform first)
  exact onwards .start .start ⟨.start, .start, .start⟩

/-- The answers to all requests, and the events that are reported, are the same in two runs of the
service that differ in nothing but the hashes of the accounts that are opened. -/
theorem password_hashes_unseen (left right : List Event)
    (alike : List.Forall₂ Event.Alike left right) :
    (∀ id, ((serve left).visits id).bind Visit.answer? =
      ((serve right).visits id).bind Visit.answer?) ∧
      (serve left).world.events = (serve right).world.events := by
  obtain ⟨common, veils, twinVeils⟩ := alike_serve alike
  constructor
  · intro id
    rw [veils.answer? id, twinVeils.answer? id]
  · rw [← veils.events, twinVeils.events]

/-- A request that opens an account for Ada, who has the given hash. -/
def secretRequest (hash length : String) : Request where
  method := "POST"
  target := "/api/v1/accounts".toList
  headers := [("content-type", "application/json"), ("content-length", length)]
  body := Text.toUtf8 ("\x7b\"username\":\"ada\",\"password_hash\":\"" ++ hash ++ "\"\x7d").toList

def secretEvents (hash length : String) : List Event :=
  .arrive (secretRequest hash length) 1000 :: List.replicate 4 (.proceed ⟨1⟩)

/-- The two runs keep different hashes, and answer alike. -/
theorem password_hashes_unseen_sample :
    List.Forall₂ Event.Alike (secretEvents "h" "38") (secretEvents "another secret" "51") ∧
      (serve (secretEvents "h" "38")).memory.account? ⟨1⟩ ≠
        (serve (secretEvents "another secret" "51")).memory.account? ⟨1⟩ ∧
      (((serve (secretEvents "h" "38")).visits ⟨1⟩).bind Visit.answer?).isSome ∧
      ((serve (secretEvents "h" "38")).visits ⟨1⟩).bind Visit.answer? =
        ((serve (secretEvents "another secret" "51")).visits ⟨1⟩).bind Visit.answer? := by
  have names : ∀ hash length rest, hash ≠ "" →
    AccountBody.readJson (Text.decodeUtf8 (secretRequest hash length).body) =
      .ok (⟨"ada", hash⟩, rest) → (secretRequest hash length).Names "ada" :=
    fun hash length rest hashed read => ⟨hash, rest, hashed, read⟩
  have headers : ∀ length twinLength name, name ≠ "content-length" →
      (secretRequest "h" length).header? name =
        (secretRequest "another secret" twinLength).header? name := by
    intro length twinLength name different
    have other : ("content-length".toList.map Char.toLower == name.toList) = false := by
      rw [show "content-length".toList.map Char.toLower = "content-length".toList from rfl,
        beq_eq_false_iff_ne]
      exact fun same => different (String.toList_inj.mp same).symm
    simp only [Request.header?, secretRequest, List.find?_cons, other, List.find?_nil]
  have requests : (secretRequest "h" "38").Alike (secretRequest "another secret" "51") := by
    refine .opens "ada" rfl rfl (headers "38" "51") rfl (by decide +kernel)
      (names _ _ [] (by decide) ?_) (names _ _ [] (by decide) ?_)
    · decide +kernel
    · decide +kernel
  have alike :
      List.Forall₂ Event.Alike (secretEvents "h" "38") (secretEvents "another secret" "51") :=
    .cons (.arrive requests 1000) (List.forall₂_same.mpr fun event _ => .same event)
  exact ⟨alike, by decide +kernel, by decide +kernel, (password_hashes_unseen _ _ alike).1 ⟨1⟩⟩

end Http

end Passbook
