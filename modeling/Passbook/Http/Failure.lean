import Passbook.Call.PostingError
import Passbook.Error
import Passbook.Http.Response
import Passbook.Log.Event

/-!
The answers that failures are turned into. Details of the store are reported as events and not shown
to clients, except where a client can do something about them.
-/

set_option autoImplicit false

namespace Passbook

open Http (Response)

def LedgerError.response : LedgerError → Response
  | validation reason => .failure 400 "validation_error" reason
  | invalidId reason => .failure 400 "validation_error" reason
  | notFound => .failure 404 "not_found" "not found"
  | insufficientFunds balance requested =>
      .failure 400 "insufficient_funds" (insufficientFunds balance requested).message
  | limitExceeded balance requested =>
      .failure 422 "balance_limit_exceeded" (limitExceeded balance requested).message
  | invariantViolation reason => .failure 422 "invariant_violation" reason

def PostingError.response (error : PostingError) : Response :=
  match error.kind with
  | .notFound => .failure 404 "not_found" error.message
  | .insufficientFunds => .failure 400 "insufficient_funds" error.message
  | .limitExceeded => .failure 422 "balance_limit_exceeded" error.message
  | .timeout => .failure 503 "lock_timeout" error.message
  | .cancelled => .failure 503 "cancelled" error.message
  | .internal => .failure 500 "internal_error" "internal error"

def StoreError.response (error : StoreError) : Response :=
  match error.fault with
  | .conflict => .failure 409 "conflict" error.detail
  | .lockTimeout => .failure 503 "lock_timeout" error.message
  | .unavailable => .failure 503 "unavailable" "store unavailable"
  | .constraint => .failure 500 "internal_error" "internal error"
  | .missingRow => .failure 500 "internal_error" "internal error"
  | .backend => .failure 500 "internal_error" "internal error"

/-- The events that report a fault of the store when it is answered. -/
def StoreError.responseEvents (error : StoreError) : List Log.Event :=
  let fields := [("error", error.message)]
  match error.fault with
  | .conflict => []
  | .lockTimeout => [.of .warn "store call timed out" fields]
  | .unavailable => [.of .error "store unavailable" fields]
  | .constraint => [.of .error "store error" fields]
  | .missingRow => [.of .error "store error" fields]
  | .backend => [.of .error "store error" fields]

end Passbook
