import Passbook.Session.State

/-!
Running commands. Some are answered at once, the others become calls, which are tried until they are
ready. Background tasks are tried in the order of their start.
-/

set_option autoImplicit false

namespace Passbook.Session

/-- An answer, or a call that will give one. -/
inductive Begun
  | answered (outcome : Outcome)
  | calling (call : Call)

def beginQuery {α : Type} (query : Query α) (success : α → Outcome) : Begun :=
  .calling (.querying (query.map success) (Query.start store))

/-- Starts a request of a unit. While the request is in progress, the unit has no name. -/
def beginAsk (state : State) (name : String) (wish : Wish) : Begun × State :=
  match state.units name with
  | none => (.answered .noUnit, state)
  | some unit =>
      match wish.request state.now with
      | .error refusal => (.answered (.refused refusal), state)
      | .ok request => (.calling (.asking name unit request store.fresh), state.takeUnit name)

/-- Starts a posting. The amount is judged first. -/
def beginMove (state : State) (kind : EntryKind) (id : AccountId) (amount : Decimal)
    (bounds : String ⊕ Bounds) : Begun :=
  match Amount.ofDecimal amount with
  | .error refusal => .answered (.refused refusal)
  | .ok amount =>
      let context := match bounds with
        | .inl name => state.contexts name
        | .inr bounds => state.contextOf? bounds
      match context with
      | some context => .calling (.posting ⟨context, id, kind, amount⟩ (Posting.start store))
      | none => .answered .unknownName

/-- Gives up a call. A unit whose request was in progress gets its name back. A task that the call
waits for is aborted, as nobody else can; such waits form a chain of at most `length` tasks. -/
def giveUpChain (state : State) : (length : Nat) → Call → State
  | _, .asking name unit request progress =>
      (state.update (store.withdraw unit request progress)).giveUnit name unit
  | _, .finishing unit _ _ => state.update (store.drop unit)
  | _, .posting posting phase => state.update (Posting.giveUp store posting phase)
  | _, .querying _ phase => state.update (Query.giveUp store phase)
  | _, .answering exchange => state.update (exchange.giveUp store)
  | length + 1, .awaitingTask number =>
      match state.taskNumbered? number with
      | some ⟨_, _, .running call⟩ =>
          giveUpChain (state.updateTask number fun task => { task with state := .ended .aborted })
            length call
      | _ => state
  | _, _ => state

def giveUp (call : Call) (state : State) : State := giveUpChain state state.tasks.length call

/-- Aborts the task of a name, unless it has ended. -/
def abort (state : State) (name : String) : Outcome × State :=
  match state.task? name with
  | none => (.noTask, state)
  | some task => (.done, giveUp (.awaitingTask task.number) state)

/-- Starts a task. A task that had the name is aborted. -/
def spawn (state : State) (name : String) (command : Command) : State :=
  let state := match state.task? name with
    | some older => giveUp (.awaitingTask older.number) (state.forgetTask older.number)
    | none => state
  state.addTask name command

def start (state : State) : Command → Begun × State
  | .openUnit name timeout =>
      (.calling (.opening name (state.deadlineIn timeout) store.fresh), state)
  | .ask name wish => beginAsk state name wish
  | .finish name ending =>
      match state.units name with
      | some unit => (.calling (.finishing unit ending store.fresh), state.takeUnit name)
      | none => (.answered .noUnit, state)
  | .dropUnit name =>
      match state.units name with
      | some unit => (.answered .done, (state.takeUnit name).update (store.drop unit))
      | none => (.answered .noUnit, state)
  | .create username passwordHash timeout =>
      match Registration.make username passwordHash with
      | .ok registration =>
          (beginQuery (.create registration (state.deadlineIn timeout)) .account, state)
      | .error refusal => (.answered (.refused refusal), state)
  | .byId id timeout => (beginQuery (.byId id (state.deadlineIn timeout)) .found, state)
  | .byName username timeout =>
      (beginQuery (.byName username (state.deadlineIn timeout)) .found, state)
  | .history id timeout => (beginQuery (.history id (state.deadlineIn timeout)) .entries, state)
  | .statement id timeout =>
      (beginQuery (.statement id (state.deadlineIn timeout)) .statement, state)
  | .move kind id amount bounds => (beginMove state kind id amount bounds, state)
  | .context name bounds =>
      match state.contextOf? bounds with
      | some context =>
          (.answered .done, { state with contexts := assign state.contexts name (some context) })
      | none => (.answered .unknownName, state)
  | .contextState name =>
      match state.contexts name with
      | some context =>
          (.answered (.contextIs (context.interruption state.scene) context.deadline state.now),
            state)
      | none => (.answered .unknownName, state)
  | .awaitInterruption name =>
      match state.contexts name with
      | some context => (.calling (.awaitingInterruption (interruptions.fresh (context, 0))), state)
      | none => (.answered .unknownName, state)
  | .deadlineAfter name timeout =>
      (.answered .done, { state with
        deadlines := assign state.deadlines name (some (.after state.now timeout)) })
  | .deadlineAt name instant =>
      (.answered .done,
        { state with deadlines := assign state.deadlines name (some ⟨some instant⟩) })
  | .noDeadline name =>
      (.answered .done, { state with deadlines := assign state.deadlines name (some .never) })
  | .deadlineState name =>
      match state.deadlines name with
      | some deadline => (.answered (.deadlineIs deadline state.now), state)
      | none => (.answered .unknownName, state)
  | .earlierDeadline first second =>
      match state.deadlines first, state.deadlines second with
      | some first, some second =>
          let earlier := first.earlier second
          (.answered (.earlierIs (earlier == first) (earlier == second) earlier state.now), state)
      | _, _ => (.answered .unknownName, state)
  | .newToken name =>
      (.answered .done, { state with
        tokens := assign state.tokens name (some ⟨⟨state.lastToken + 1⟩, true⟩)
        lastToken := state.lastToken + 1 })
  | .cancel name =>
      match state.tokens name with
      | some ⟨token, true⟩ => (.answered .done, state.update (·.cancel token))
      | _ => (.answered .noToken, state)
  | .dropToken name =>
      (.answered .done, { state with
        tokens := assign state.tokens name
          ((state.tokens name).map fun named => { named with canCancel := false }) })
  | .tokenState name =>
      match state.tokens name with
      | some named => (.answered (.tokenIs (state.scene.isCancelled named.token)), state)
      | none => (.answered .noToken, state)
  | .failNext point => (.answered .done, state.updateMemory (·.failNext point))
  | .delayNext point milliseconds =>
      (.answered .done, state.updateMemory (·.delayNext point milliseconds))
  | .refuseNext kind error =>
      (.answered .done, state.update (Rigged.order · kind (.fail error)))
  | .cancelAfterNext kind name =>
      match state.tokens name with
      | some named => (.answered .done, state.update (Rigged.order · kind (.cancel named.token)))
      | none => (.answered .noToken, state)
  | .sleep milliseconds => (.calling (.sleeping (state.now + milliseconds)), state)
  | .spawn name command => (.answered .done, spawn state name command)
  | .poll name =>
      match state.task? name with
      | some ⟨_, _, .running _⟩ => (.answered (.taskIs false), state)
      | some ⟨_, _, .ended _⟩ => (.answered (.taskIs true), state)
      | none => (.answered .noTask, state)
  | .await name =>
      match state.task? name with
      | some task =>
          (.calling (.awaitingTask task.number), state.forgetTask task.number)
      | none => (.answered .noTask, state)
  | .abort name =>
      let (outcome, state) := abort state name
      (.answered outcome, state)
  | .http request =>
      if request.isPossible then
        (.calling (.answering (.start store state.now state.requestTimeout request)), state)
      else (.answered .impossibleRequest, state)

def resume {π ρ : Type} (state : State) (wait : π → Call) (finish : ρ → State → Outcome × State) :
    Poll π ρ × Scene → Poll Call Outcome × State
  | (.waiting progress, scene) => (.waiting (wait progress), { state with scene })
  | (.ready result, scene) =>
      let (outcome, state) := finish result { state with scene }
      (.ready outcome, state)

def tryCall (call : Call) (state : State) : Poll Call Outcome × State :=
  match call with
  | .unstarted command => (.waiting (.unstarted command), state)
  | .opening name deadline progress =>
      resume state (.opening name deadline)
        (fun
          | .ok unit, state => (.done, state.giveUnit name unit)
          | .error error, state => (.storeFailed error, state))
        (store.tryOpenBy deadline progress state.scene)
  | .asking name unit request progress =>
      resume state (.asking name unit request)
        (fun result state => (.ofReply request result, state.giveUnit name unit))
        (store.tryAsk unit request progress state.scene)
  | .finishing unit ending progress =>
      resume state (.finishing unit ending)
        (fun result state => (.ofResult (fun _ => .done) result, state))
        (store.tryFinish unit ending progress state.scene)
  | .posting posting phase =>
      resume state (.posting posting) (fun result state => (.ofPosting result, state))
        (posting.tryPost store phase state.scene)
  | .querying query phase =>
      resume state (.querying query) (fun result state => (.ofResult id result, state))
        (query.tryRun store phase state.scene)
  | .answering exchange =>
      resume state .answering (fun answer state => (.answer answer, state))
        (exchange.tryAnswer store state.scene)
  | .awaitingInterruption vigil =>
      match interruptions.poll vigil state.situation with
      | .ready interruption => (.ready (.interrupted interruption), state)
      | .waiting vigil => (.waiting (.awaitingInterruption vigil), state)
  | .sleeping wakeAt => if wakeAt ≤ state.now then (.ready .done, state) else (.waiting call, state)
  | .awaitingTask number =>
      match state.taskNumbered? number with
      | some ⟨_, _, .ended outcome⟩ => (.ready outcome, state)
      | _ => (.waiting call, state)

/-- Tries a call, starting it if that has not been done. -/
def attempt (call : Call) (state : State) : Poll Call Outcome × State :=
  match call with
  | .unstarted command =>
      match start state command with
      | (.answered outcome, state) => (.ready outcome, state)
      | (.calling call, state) => tryCall call state
  | call => tryCall call state

def wakeAt : Call → Option Nat
  | .unstarted _ => none
  | .opening _ deadline progress => soonest (store.wakeAt progress) deadline.instant
  | .asking _ _ _ progress => store.wakeAt progress
  | .finishing _ _ progress => store.wakeAt progress
  | .posting posting phase => posting.wakeAt store phase
  | .querying query phase => query.wakeAt store phase
  | .answering exchange => exchange.wakeAt store
  | .awaitingInterruption vigil => vigil.alarm
  | .sleeping wakeAt => some wakeAt
  | .awaitingTask _ => none

def attemptTask (state : State) (number : Nat) : State :=
  match state.taskNumbered? number with
  | some ⟨_, _, .running call⟩ =>
      match attempt call state with
      | (.waiting call, state) =>
          state.updateTask number fun task => { task with state := .running call }
      | (.ready outcome, state) =>
          state.updateTask number fun task => { task with state := .ended outcome }
  | _ => state

def attemptTasks (state : State) : State :=
  (state.tasks.map Task.number).foldl attemptTask state

/-- Tries the background tasks until each has ended or waits for time to pass. One that ends can let
another go on, so as many rounds are enough as there are tasks. -/
def settleTasks (state : State) : State :=
  (List.range (state.tasks.length + 1)).foldl (fun state _ => attemptTasks state) state

/-- Tries a call and the background tasks in turn, the call first, until it is ready or all of them
wait for time to pass. -/
def settleCall : (rounds : Nat) → Call → State → Poll Call Outcome × State
  | 0, call, state => (.waiting call, state)
  | rounds + 1, call, state =>
      match attempt call state with
      | (.ready outcome, state) => (.ready outcome, state)
      | (.waiting call, state) => settleCall rounds call (attemptTasks state)

/-- The first moment after now at which some waiting call goes on by itself. -/
def nextMoment? (call : Call) (state : State) : Option Nat :=
  let calls := call :: state.tasks.filterMap fun task =>
    match task.state with
    | .running call => some call
    | .ended _ => none
  ((calls.filterMap wakeAt).filter (state.now < ·)).min?

/-- The time after which a call is given up, in milliseconds. -/
def patience : Nat := 3600000

/-- Tries a call for the last time and gives it up if it is not ready. Background tasks that could
go on at this very moment come too late. -/
def runLast (now : Nat) (call : Call) (state : State) : Outcome × State :=
  match attempt call (state.update fun scene => { scene with now }) with
  | (.ready outcome, state) => (outcome, state)
  | (.waiting call, state) => (.blocked, giveUp call state)

/-- Runs a call to its end. When everything waits, the clock goes on to the next moment at which
something happens. At the last moment the call is given up. -/
def runCall (last now : Nat) (call : Call) (state : State) : Outcome × State :=
  match settleCall (state.tasks.length + 2) call (state.update fun scene => { scene with now }) with
  | (.ready outcome, state) => (outcome, state)
  | (.waiting call, state) =>
      match nextMoment? call state with
      | some moment =>
          if now < moment ∧ moment < last then runCall last moment call state
          else runLast last call state
      | none => runLast last call state
termination_by last - now

/-- Runs a command, and then the background tasks as far as they go. -/
def run (state : State) (command : Command) : Outcome × State :=
  let (outcome, state) := match start state command with
    | (.answered outcome, state) => (outcome, state)
    | (.calling call, state) => runCall (state.now + patience) state.now call state
  (outcome, settleTasks state)

/-- Takes the events that have been reported, the oldest first. -/
def takeEvents (state : State) : List Log.Event × State :=
  (state.scene.events.reverse, state.update fun scene => { scene with events := [] })

end Passbook.Session
