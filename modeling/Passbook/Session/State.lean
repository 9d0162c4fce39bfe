import Passbook.Call.Waiting
import Passbook.Outcome
import Passbook.Session.Command

/-!
The state of a session: the surroundings of its calls, the names given so far, and the tasks in the
background.
-/

set_option autoImplicit false

namespace Passbook.Session

/-- A command in progress. -/
inductive Call
  /-- A command of a background task that has not been looked at yet. -/
  | unstarted (command : Command)
  | opening (name : String) (deadline : Deadline) (progress : Progress)
  | asking (name : String) (unit : UnitId) (request : Request) (progress : Progress)
  | finishing (unit : UnitId) (ending : Ending) (progress : Progress)
  | posting (posting : Posting) (phase : Posting.Phase UnitId Progress)
  | querying (query : Query Outcome) (phase : Query.Phase UnitId Progress Outcome)
  | answering (exchange : Http.Exchange UnitId Progress)
  | awaitingInterruption (vigil : Vigil Watch Nat)
  | sleeping (wakeAt : Nat)
  | awaitingTask (number : Nat)

/-- What has become of a background task. -/
inductive TaskState
  | running (call : Call)
  | ended (outcome : Outcome)

/-- A background task. A task that is waited for has no name any more. -/
structure Task where
  number : Nat
  name : Option String
  state : TaskState

/-- A named token. The token lives on when the right to use it has been given up. -/
structure NamedToken where
  token : Token
  canCancel : Bool

/-- A session. -/
structure State where
  scene : Scene
  requestTimeout : Nat
  units : String → Option UnitId
  contexts : String → Option CallContext
  deadlines : String → Option Deadline
  tokens : String → Option NamedToken
  tasks : List Task
  lastToken : Nat
  lastTask : Nat

/-- The store of a session, with its orders. -/
def store : LedgerStore Store UnitId Progress := Rigged.store Memory.store

/-- How a session waits for interruptions. -/
def interruptions : Waiting (CallContext × Nat) (Situation Store) (Vigil Watch Nat) Interruption :=
  CallContext.interrupted Watch.watching .sleeping

namespace State

def start (requestTimeout : Nat) : State where
  scene := ⟨0, [], Rigged.plain .empty, []⟩
  requestTimeout
  units _ := none
  contexts _ := none
  deadlines _ := none
  tokens _ := none
  tasks := []
  lastToken := 0
  lastTask := 0

def now (state : State) : Nat := state.scene.now

/-- The scene as a wait for an interruption observes it. No token is abandoned before the session
ends, because orders can use a token whose name cannot. -/
def situation (state : State) : Situation Store := ⟨state.scene, []⟩

def update (state : State) (change : Scene → Scene) : State :=
  { state with scene := change state.scene }

def updateMemory (state : State) (change : Memory → Memory) : State :=
  state.update (Rigged.change fun world => Memory.update world change)

/-- Gives a name to a unit. A unit that had the name is dropped. -/
def giveUnit (state : State) (name : String) (unit : UnitId) : State :=
  let state := match state.units name with
    | some older => state.update (store.drop older)
    | none => state
  { state with units := assign state.units name (some unit) }

def takeUnit (state : State) (name : String) : State :=
  { state with units := assign state.units name none }

def deadlineIn (state : State) : Option Nat → Deadline
  | some timeout => .after state.now timeout
  | none => .never

/-- The context of bounds from now on; none if a name is not known. -/
def contextOf? (state : State) (bounds : Bounds) : Option CallContext := do
  let context ← (match bounds.deadline with
    | some name => (state.deadlines name).map CallContext.unbounded.withDeadline
    | none => some .unbounded)
  let context := bounds.timeouts.foldl (·.withTimeout state.now) context
  match bounds.token with
  | some name => (state.tokens name).map fun named => context.withToken named.token
  | none => some context

def task? (state : State) (name : String) : Option Task :=
  state.tasks.find? fun task => task.name == some name

def taskNumbered? (state : State) (number : Nat) : Option Task :=
  state.tasks.find? fun task => task.number == number

def updateTask (state : State) (number : Nat) (change : Task → Task) : State :=
  { state with
    tasks := state.tasks.map fun task => if task.number = number then change task else task }

def forgetTask (state : State) (number : Nat) : State :=
  state.updateTask number fun task => { task with name := none }

def addTask (state : State) (name : String) (command : Command) : State :=
  { state with
    tasks := state.tasks ++ [⟨state.lastTask + 1, some name, .running (.unstarted command)⟩]
    lastTask := state.lastTask + 1 }

end State

end Passbook.Session
