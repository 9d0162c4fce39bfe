import Passbook.Proofs.Http.Effects

/-!
The status of an answer tells the effect of the request. A movement is answered with `200` and a new
account with `201` exactly if it has been committed; no other answer is given to a request that has
changed the ledger.
-/

set_option autoImplicit false

namespace Passbook

open Http (Response)

/-- Whether a response refuses what was asked for. -/
def Http.Response.Refuses (response : Response) : Prop := 400 ≤ response.status

theorem LedgerError.response_refuses (error : LedgerError) : error.response.Refuses := by
  cases error <;> simp [LedgerError.response, Response.Refuses, Response.failure, Response.json]

theorem PostingError.response_refuses (error : PostingError) : error.response.Refuses := by
  unfold PostingError.response
  cases error.kind <;> simp [Response.Refuses, Response.failure, Response.json]

theorem StoreError.response_refuses (error : StoreError) : error.response.Refuses := by
  unfold StoreError.response
  cases error.fault <;> simp [Response.Refuses, Response.failure, Response.json]

/-- The store never finds fault with a request itself. -/
theorem StoreError.response_status_ne (error : StoreError) : error.response.status ≠ 400 := by
  unfold StoreError.response
  cases error.fault <;> simp [Response.failure, Response.json]

/-- A posting never finds fault with a request itself: its only failure with that status is about
the balance. -/
theorem PostingError.response_ne (error : PostingError) (reason : String) :
    error.response ≠ .failure 400 "validation_error" reason := by
  intro same
  have status := congrArg Response.status same
  unfold PostingError.response at same status
  cases kind : error.kind <;> rw [kind] at same status
  case insufficientFunds =>
    -- The codes differ in their first letters.
    have letter : some 'i' = some 'v' :=
      congrArg (fun response : Response => response.body[10]?) same
    cases letter
  all_goals simp [Response.failure, Response.json] at status

namespace Http

open Shared (ClientId Founds)

/-!
## What is asked for
-/

/-- How a request is understood. -/
inductive Request.Asks (request : Request) : Action → Prop
  | nothing {response : Response} (refuses : response.Refuses) : Asks request (.answer response)
  | health (path : Resource.ofPath? request.path = some .health) :
      Asks request (.answer (.bare 200))
  | creates {body : AccountBody} {registration : Registration} (posted : request.method = "POST")
      (path : Resource.ofPath? request.path = some .accounts)
      (read : request.readBody AccountBody.readJson = .ok body)
      (made : Registration.make body.username body.passwordHash = .ok registration) :
      Asks request (.create registration)
  | finds {text : List Char} {id : AccountId}
      (path : Resource.ofPath? request.path = some (.account text))
      (named : Request.readAccount text = .ok id) : Asks request (.find id)
  | lists {text : List Char} {id : AccountId}
      (path : Resource.ofPath? request.path = some (.history text))
      (named : Request.readAccount text = .ok id) : Asks request (.list id)
  | moves {kind : EntryKind} {text : List Char} {id : AccountId} {body : MovementBody}
      {amount : Amount} (posted : request.method = "POST")
      (path : Resource.ofPath? request.path = some (.movement kind text))
      (named : Request.readAccount text = .ok id)
      (read : request.readBody MovementBody.readJson = .ok body)
      (judged : Amount.ofDecimal body.amount = .ok amount) :
      Asks request (.move kind id amount)

variable {request : Request}

theorem readBody_refuses {α : Type} {reader : Json.Reader α} {response : Response}
    (refused : request.readBody reader = .error response) :
    response.Refuses := by
  unfold Request.readBody at refused
  split at refused
  · cases refused
    exact Nat.le_refl 400
  · split at refused
    · cases refused
      exact Nat.le_refl 400
    · split at refused
      all_goals cases refused
      all_goals exact Nat.le_refl 400

theorem refuses_of_mapError {α : Type} {judged : Except LedgerError α} {response : Response}
    (refused : judged.mapError LedgerError.response = .error response) : response.Refuses := by
  cases judged with
  | ok value => cases refused
  | error error =>
      cases refused
      exact error.response_refuses

theorem readAccount_refuses {text : List Char} {response : Response}
    (refused : Request.readAccount text = .error response) :
    response.Refuses := by
  unfold Request.readAccount at refused
  split at refused
  · exact refuses_of_mapError refused
  · cases refused
    exact Nat.le_refl 400

theorem ok_of_mapError {α : Type} {judged : Except LedgerError α} {value : α}
    (accepted : judged.mapError LedgerError.response = .ok value) :
    judged = .ok value := by
  cases judged with
  | ok other =>
      cases accepted
      rfl
  | error error => cases accepted

/-- Whether a request is either understood rightly or refused. -/
def Request.Understands (request : Request) : Except Response Action → Prop
  | .ok action => request.Asks action
  | .error response => response.Refuses

theorem understands_bind {α : Type} {stage : Except Response α} {next : α → Except Response Action}
    (refuses : ∀ {response : Response}, stage = .error response → response.Refuses)
    (goesOn : ∀ value, stage = .ok value → request.Understands (next value)) :
    request.Understands (stage >>= next) := by
  cases stage with
  | ok value => exact goesOn value rfl
  | error response => exact refuses rfl

theorem understands_actionOn {resource : Resource}
    (path : Resource.ofPath? request.path = some resource)
    (allowed : resource.methods.contains request.method = true) :
    request.Understands (request.actionOn resource) := by
  cases resource with
  | health => exact .health path
  | accounts =>
      have posted : request.method = "POST" := by
        simpa [Resource.methods, Resource.isRead] using allowed
      refine understands_bind readBody_refuses fun body read => ?_
      exact understands_bind refuses_of_mapError fun registration made =>
        .creates posted path read (ok_of_mapError made)
  | account text =>
      rw [Request.actionOn]
      cases named : Request.readAccount text with
      | error response => exact readAccount_refuses named
      | ok id => exact .finds path named
  | history text =>
      rw [Request.actionOn]
      cases named : Request.readAccount text with
      | error response => exact readAccount_refuses named
      | ok id => exact .lists path named
  | movement kind text =>
      have posted : request.method = "POST" := by
        simpa [Resource.methods, Resource.isRead] using allowed
      refine understands_bind readAccount_refuses fun id named => ?_
      refine understands_bind readBody_refuses fun body read => ?_
      exact understands_bind refuses_of_mapError fun amount judged =>
        .moves posted path named read (ok_of_mapError judged)

theorem Request.asks (request : Request) : request.Asks request.action := by
  unfold Request.action
  split
  · exact .nothing (by simp [Response.Refuses, Response.bare])
  · next resource path =>
      split
      · next allowed =>
          have understands := understands_actionOn path allowed
          split
          · next action understood =>
              rw [understood] at understands
              exact understands
          · next response refused =>
              rw [refused] at understands
              exact .nothing understands
      · exact .nothing (by simp [Response.Refuses, Response.bare])

/-!
## What the answers tell
-/

/-- Whether a request for a movement has committed one entry, by itself and just once, and its
response tells of that entry and of the balance that it left. -/
inductive Moved (events : List Event) (id : ClientId) (request : Request) (kind : EntryKind)
    (text : List Char) : Response → Prop
  | intro {posting : Posting} {body : MovementBody} {receipt : Receipt}
      (kind_eq : posting.kind = kind) (named : Request.readAccount text = .ok posting.account)
      (read : request.readBody MovementBody.readJson = .ok body)
      (judged : Amount.ofDecimal body.amount = .ok posting.amount)
      (once : CommittedOnce events id (posting.Commits receipt)) :
      Moved events id request kind text (movedResponse (.ok receipt))

/-- Whether a request for a new account has committed that account, empty, by itself and just once,
and its response tells of it. -/
inductive Created (events : List Event) (id : ClientId) (request : Request) : Response → Prop
  | intro {body : AccountBody} {registration : Registration} {account : Account}
      (read : request.readBody AccountBody.readJson = .ok body)
      (made : Registration.make body.username body.passwordHash = .ok registration)
      (username : account.username = registration.username) (empty : account.balance = .zero)
      (once : CommittedOnce events id (Founds registration account)) :
      Created events id request (createdResponse (.ok account))

/-- Whether the response to a request tells of a change of the ledger. -/
inductive Succeeds (request : Request) (response : Response) : Prop
  | moved {kind : EntryKind} {text : List Char} (posted : request.method = "POST")
      (path : Resource.ofPath? request.path = some (.movement kind text))
      (status : response.status = 200)
  | created (posted : request.method = "POST")
      (path : Resource.ofPath? request.path = some .accounts) (status : response.status = 201)

/-- What the response to a request tells of the ledger. -/
structure Tells (events : List Event) (id : ClientId) (request : Request)
    (response : Response) : Prop where
  moves : ∀ kind text, request.method = "POST" →
    Resource.ofPath? request.path = some (.movement kind text) →
    (response.status = 200 ↔ Committed events id) ∧
      (response.status = 200 → Moved events id request kind text response)
  creates : request.method = "POST" → Resource.ofPath? request.path = some .accounts →
    (response.status = 201 ↔ Committed events id) ∧
      (response.status = 201 → Created events id request response)
  others : ¬ Succeeds request response → ¬ Committed events id
  /-- A request that is refused before any call is made leaves no trace. -/
  atOnce : ∀ refusal, request.action = .answer refusal →
    response = Exchange.sent request refusal ∧ Untouched events id
  /-- Every request that is found invalid is refused before any call is made. -/
  invalid : ∀ reason, response = Exchange.sent request (.failure 400 "validation_error" reason) →
    (∃ refusal, request.action = .answer refusal) ∧ Untouched events id

theorem sent_status (request : Request) (response : Response) :
    (Exchange.sent request response).status = response.status := by
  unfold Exchange.sent
  split <;> rfl

theorem sent_of_posted (posted : request.method = "POST") (response : Response) :
    Exchange.sent request response = response := by
  rw [Exchange.sent, posted]
  rfl

variable {events : List Event} {id : ClientId} {response : Response}

theorem not_committed_of_untouched (untouched : Untouched events id) : ¬ Committed events id :=
  fun ⟨earlier, event, changes⟩ =>
  changes.changed (congrArg Memory.tables (untouched earlier event changes.taken changes.own))

/-- What is to be shown of a response to a request that has changed nothing. -/
private theorem tells_undone (undone : ¬ Committed events id)
    (unmoved : ∀ kind text, Resource.ofPath? request.path = some (.movement kind text) →
      response.status ≠ 200)
    (uncreated : Resource.ofPath? request.path = some .accounts → response.status ≠ 201)
    (atOnce : ∀ refusal, request.action = .answer refusal → refusal = response ∧
      Untouched events id)
    (invalid : ∀ reason, Exchange.sent request response = Exchange.sent request
      (.failure 400 "validation_error" reason) → ∃ refusal, request.action = .answer refusal) :
    Tells events id request (Exchange.sent request response) where
  moves kind text _ path := by
    rw [sent_status]
    exact ⟨iff_of_false (unmoved kind text path) undone,
      fun status => absurd status (unmoved kind text path)⟩
  creates _ path := by
    rw [sent_status]
    exact ⟨iff_of_false (uncreated path) undone, fun status => absurd status (uncreated path)⟩
  others _ := undone
  atOnce refusal asked :=
    have ⟨same, untouched⟩ := atOnce refusal asked
    ⟨congrArg (Exchange.sent request) same.symm, untouched⟩
  invalid reason same :=
    have ⟨refusal, asked⟩ := invalid reason same
    ⟨⟨refusal, asked⟩, (atOnce refusal asked).2⟩

theorem Response.Refuses.status_ne {status : Nat} (refuses : response.Refuses)
    (below : status < 400) : response.status ≠ status :=
  fun same => Nat.not_lt.mpr refuses (same ▸ below)

theorem createdResponse_refuses (error : StoreError) : (createdResponse (.error error)).Refuses :=
  error.response_refuses

theorem movedResponse_refuses (error : PostingError) : (movedResponse (.error error)).Refuses :=
  error.response_refuses

theorem foundResponse_status_ne (result : Except StoreError (Option Account)) :
    (foundResponse result).status ≠ 400 := by
  rcases result with error | _ | account
  · exact error.response_status_ne
  · decide
  · simp [foundResponse, Response.json]

theorem listedResponse_status_ne (result : Except StoreError (Option Statement)) :
    (listedResponse result).status ≠ 400 := by
  rcases result with error | _ | statement
  · exact error.response_status_ne
  · decide
  · simp [listedResponse, Response.json]

theorem sent_ne_of_status (status : response.status ≠ 400) (reason : String) :
    Exchange.sent request response ≠
      Exchange.sent request (.failure 400 "validation_error" reason) := by
  intro same
  have statuses := congrArg Response.status same
  rw [sent_status, sent_status] at statuses
  exact status statuses

private theorem tells_atOnce (asked : request.action = .answer response)
    (untouched : Untouched events id) :
    Tells events id request (Exchange.sent request response) := by
  have asks := request.asks
  rw [asked] at asks
  have statuses : (∀ kind text, Resource.ofPath? request.path = some (.movement kind text) →
    response.status ≠ 200) ∧
      (Resource.ofPath? request.path = some .accounts → response.status ≠ 201) := by
    cases asks with
    | nothing refuses =>
        exact ⟨fun _ _ _ => refuses.status_ne (by decide), fun _ => refuses.status_ne (by decide)⟩
    | health path =>
        exact ⟨fun _ _ other => (nomatch path.symm.trans other),
          fun other => nomatch path.symm.trans other⟩
  refine tells_undone (not_committed_of_untouched untouched) statuses.1 statuses.2
    (fun refusal same => ?_) fun _ _ => ⟨response, asked⟩
  cases asked.symm.trans same
  exact ⟨rfl, untouched⟩

/-- What is to be shown of a response to a request that has made a call and changed nothing. -/
private theorem tells_call (undone : ¬ Committed events id)
    (calls : ∀ refusal, request.action ≠ .answer refusal)
    (unmoved : ∀ kind text, Resource.ofPath? request.path = some (.movement kind text) →
      response.status ≠ 200)
    (uncreated : Resource.ofPath? request.path = some .accounts → response.status ≠ 201)
    (valid : ∀ reason, Exchange.sent request response ≠
      Exchange.sent request (.failure 400 "validation_error" reason)) :
    Tells events id request (Exchange.sent request response) :=
  tells_undone undone unmoved uncreated (fun refusal asked => absurd asked (calls refusal))
    fun reason same => absurd same (valid reason)

theorem CommittedOnce.committed {effect : Memory → Memory → Prop}
    (once : CommittedOnce events id effect) : Committed events id :=
  let ⟨earlier, event, changes, _, _⟩ := once
  ⟨earlier, event, changes⟩

private theorem tells_created {registration : Registration} {account : Account}
    (asked : request.action = .create registration)
    (once : CommittedOnce events id (Founds registration account)) :
    Tells events id request (Exchange.sent request (createdResponse (.ok account))) := by
  have asks := request.asks
  rw [asked] at asks
  cases asks with
  | creates posted path read made =>
      have same : account = registration.account account.id := by
        obtain ⟨earlier, event, -, founds, -⟩ := once
        exact founds.made
      have created : Created events id request (createdResponse (.ok account)) :=
        .intro read made (by rw [same]; rfl) (by rw [same]; rfl) once
      rw [sent_of_posted posted]
      exact {
        moves := fun _ _ _ other => nomatch path.symm.trans other
        creates := fun _ _ => ⟨iff_of_true rfl once.committed, fun _ => created⟩
        others := fun unsuccessful => absurd (.created posted path rfl) unsuccessful
        atOnce := fun _ other => nomatch asked.symm.trans other
        invalid :=
          fun reason other =>
            nomatch congrArg Response.status (other.trans (sent_of_posted posted _)) }

private theorem tells_moved {posting : Posting} {receipt : Receipt}
    (asked : request.action = .move posting.kind posting.account posting.amount)
    (once : CommittedOnce events id (posting.Commits receipt)) :
    Tells events id request (Exchange.sent request (movedResponse (.ok receipt))) := by
  have asks := request.asks
  rw [asked] at asks
  generalize same : posting.kind = kind at asks
  cases asks with
  | @moves _ text _ _ _ posted path named read judged =>
      have moved : Moved events id request kind text (movedResponse (.ok receipt)) :=
        .intro same named read judged once
      rw [sent_of_posted posted]
      refine {
        moves := fun other spelling _ place => ?_
        creates := fun _ other => nomatch path.symm.trans other
        others := fun unsuccessful => absurd (.moved posted path rfl) unsuccessful
        atOnce := fun _ other => nomatch asked.symm.trans other
        invalid :=
          fun reason other =>
            nomatch congrArg Response.status (other.trans (sent_of_posted posted _)) }
      cases path.symm.trans place
      exact ⟨iff_of_true rfl once.committed, fun _ => moved⟩

private theorem tells_told
    (told : Told request (¬ Committed events id) (CommittedOnce events id) response) :
    Tells events id request (Exchange.sent request response) := by
  have asks := request.asks
  cases told with
  | creates asked once => exact tells_created asked once
  | @failsToCreate registration error asked undone =>
      have refuses := createdResponse_refuses error
      exact tells_call undone (fun _ other => nomatch asked.symm.trans other)
        (fun _ _ _ => refuses.status_ne (by decide)) (fun _ => refuses.status_ne (by decide))
        (sent_ne_of_status error.response_status_ne)
  | @finds id result asked undone =>
      rw [asked] at asks
      cases asks with
      | finds path named =>
          exact tells_call undone (fun _ other => nomatch asked.symm.trans other)
            (fun _ _ other => nomatch path.symm.trans other)
            (fun other => nomatch path.symm.trans other)
            (sent_ne_of_status (foundResponse_status_ne result))
  | @lists id result asked undone =>
      rw [asked] at asks
      cases asks with
      | lists path named =>
          exact tells_call undone (fun _ other => nomatch asked.symm.trans other)
            (fun _ _ other => nomatch path.symm.trans other)
            (fun other => nomatch path.symm.trans other)
            (sent_ne_of_status (listedResponse_status_ne result))
  | moves asked once => exact tells_moved asked once
  | @failsToMove posting error asked undone =>
      have refuses := movedResponse_refuses error
      rw [asked] at asks
      cases asks with
      | moves posted path named read judged =>
          refine tells_call undone (fun _ other => nomatch asked.symm.trans other)
            (fun _ _ _ => refuses.status_ne (by decide)) (fun _ => refuses.status_ne (by decide))
            fun reason => ?_
          rw [sent_of_posted posted, sent_of_posted posted]
          exact error.response_ne reason

/-- For every request that is answered, whatever else goes on: the status of the answer tells
whether the request has changed the ledger, and how. -/
theorem status_tells_effect {answer : Answer}
    (known : (serve events).visits id = some (.answered request answer)) :
    Tells events id request answer.response := by
  obtain ⟨came, untouched⟩ := (followed_serve events id).after _ known
  cases came with
  | atOnce asked => exact tells_atOnce asked (untouched _ asked)
  | answered told => exact tells_told told

/-- A request for an account of Ada's. -/
def adaRequest : Request where
  method := "POST"
  target := "/api/v1/accounts".toList
  headers := [("content-type", "application/json")]
  body := Text.toUtf8 "\x7b\"username\":\"ada\",\"password_hash\":\"h\"\x7d".toList

def adaEvents : List Event := .arrive adaRequest 1000 :: List.replicate 4 (.proceed ⟨1⟩)

theorem status_tells_effect_sample :
    ∃ answer, (serve adaEvents).visits ⟨1⟩ = some (.answered adaRequest answer) ∧
      answer.response.status = 201 ∧
      Created adaEvents ⟨1⟩ adaRequest answer.response := by
  have known : (serve adaEvents).visits ⟨1⟩ = some (.answered adaRequest
      ⟨.generated, .json 201 "\x7b\"id\":1,\"username\":\"ada\",\"balance\":\"0\"\x7d".toList⟩) :=
        rfl
  exact ⟨_, known, rfl, ((status_tells_effect known).creates rfl rfl).2 rfl⟩

end Http

end Passbook
