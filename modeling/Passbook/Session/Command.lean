import Passbook.Http.Request
import Passbook.Memory.Store
import Passbook.Store.Rigged
import Passbook.Store.Wish

/-!
What can be asked of a session. Units of work, tokens, deadlines, contexts and background tasks have
names of the caller's choosing.
-/

set_option autoImplicit false

namespace Passbook.Session

abbrev Store := Rigged Memory

abbrev Scene := World Store

abbrev Progress := Rigged.Progress Memory.Progress

/-- Bounds as they are asked for: a named deadline, timeouts from now on, and a named token. -/
structure Bounds where
  deadline : Option String
  timeouts : List Nat
  token : Option String

inductive Command
  | openUnit (unit : String) (timeout : Option Nat)
  | ask (unit : String) (wish : Wish)
  | finish (unit : String) (ending : Ending)
  | dropUnit (unit : String)
  | create (username passwordHash : String) (timeout : Option Nat)
  | byId (id : AccountId) (timeout : Option Nat)
  | byName (username : String) (timeout : Option Nat)
  | history (id : AccountId) (timeout : Option Nat)
  | statement (id : AccountId) (timeout : Option Nat)
  | move (kind : EntryKind) (id : AccountId) (amount : Decimal) (bounds : String ⊕ Bounds)
  | context (name : String) (bounds : Bounds)
  | contextState (name : String)
  | awaitInterruption (context : String)
  | deadlineAfter (name : String) (timeout : Nat)
  | deadlineAt (name : String) (instant : Nat)
  | noDeadline (name : String)
  | deadlineState (name : String)
  | earlierDeadline (first second : String)
  | newToken (name : String)
  | cancel (token : String)
  | dropToken (token : String)
  | tokenState (token : String)
  | failNext (point : FaultPoint)
  | delayNext (point : FaultPoint) (milliseconds : Nat)
  | refuseNext (kind : CallKind) (error : StoreError)
  | cancelAfterNext (kind : CallKind) (token : String)
  | sleep (milliseconds : Nat)
  | spawn (task : String) (command : Command)
  | poll (task : String)
  | await (task : String)
  | abort (task : String)
  | http (request : Http.Request)

end Passbook.Session
