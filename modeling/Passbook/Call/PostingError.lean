import Passbook.Id
import Passbook.Money
import Passbook.Call.Context
import Passbook.Store.Error

/-!
How a posting can fail. Whatever the failure, the ledger is as it was before.
-/

set_option autoImplicit false

namespace Passbook

/-- How far a posting has come. -/
inductive Stage
  | idle
  | lockAcquired
  | validated
  | mutated
  | recorded
  | committed
  | rolledBack
  deriving DecidableEq

def Stage.name : Stage → String
  | idle => "idle"
  | lockAcquired => "lock_acquired"
  | validated => "validated"
  | mutated => "mutated"
  | recorded => "recorded"
  | committed => "committed"
  | rolledBack => "rolled_back"

/-- What a failure means to the caller. -/
inductive FailureKind
  | notFound
  | insufficientFunds
  | limitExceeded
  | timeout
  | cancelled
  | internal
  deriving DecidableEq

/-- The failure of a posting. A stage is the last one that was reached. -/
inductive PostingError
  | notFound (account : AccountId)
  | insufficientFunds (account : AccountId) (balance : Money) (requested : Amount)
  | limitExceeded (account : AccountId) (balance : Money) (requested : Amount)
  | deadlineExceeded (stage : Stage)
  | cancelled (stage : Stage)
  | invariant (reason : String)
  | store (stage : Stage) (error : StoreError)
  deriving DecidableEq

namespace PostingError

def kind : PostingError → FailureKind
  | notFound _ => .notFound
  | insufficientFunds _ _ _ => .insufficientFunds
  | limitExceeded _ _ _ => .limitExceeded
  | deadlineExceeded _ => .timeout
  | cancelled _ => .cancelled
  | invariant _ => .internal
  | store _ _ => .internal

def stage? : PostingError → Option Stage
  | deadlineExceeded stage => some stage
  | cancelled stage => some stage
  | store stage _ => some stage
  | _ => none

def message : PostingError → String
  | notFound account => "account " ++ account.render ++ " not found"
  | insufficientFunds _ balance requested =>
      "Insufficient funds: balance " ++ balance.render ++ ", requested " ++ requested.render
  | limitExceeded _ balance requested =>
      "Balance limit exceeded: balance " ++ balance.render ++ ", requested " ++ requested.render
  | deadlineExceeded stage => "deadline exceeded (stage: " ++ stage.name ++ ")"
  | cancelled stage => "cancelled by caller (stage: " ++ stage.name ++ ")"
  | invariant reason => "ledger invariant violated: " ++ reason
  | store stage error => "store failure (stage: " ++ stage.name ++ "): " ++ error.message

/-- The failure of a posting whose store call failed. The store waits no longer than the caller's
deadline, so its own timeout is that deadline. -/
def ofStore (stage : Stage) (error : StoreError) : PostingError :=
  if error.fault = .lockTimeout then .deadlineExceeded stage else .store stage error

def ofInterruption (stage : Stage) : Interruption → PostingError
  | .deadlineExceeded => .deadlineExceeded stage
  | .cancelled => .cancelled stage

/-- The failure of a posting that the rules of the ledger refuse. -/
def ofRefusal (account : AccountId) (balance : Money) (requested : Amount) :
    LedgerError → PostingError
  | .insufficientFunds _ _ => .insufficientFunds account balance requested
  | .limitExceeded _ _ => .limitExceeded account balance requested
  | other => .invariant other.message

/-- Whether the caller is no longer waiting, so that nothing may delay the answer. -/
def isInterruption (error : PostingError) : Bool :=
  match error.kind with
  | .timeout => true
  | .cancelled => true
  | _ => false

end PostingError

end Passbook
