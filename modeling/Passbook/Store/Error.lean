/-!
Why storage refuses or fails. These are faults of the store, as opposed to refusals by the rules of
the ledger.
-/

set_option autoImplicit false

namespace Passbook

/-- The kind of a fault of the store. -/
inductive StoreFault
  /-- The store cannot be reached. -/
  | unavailable
  /-- Waiting for a row, or for a unit of work, took longer than the caller's deadline allows. -/
  | lockTimeout
  /-- Something that must be unique exists already. -/
  | conflict
  /-- A write breaks a condition of the store. -/
  | constraint
  /-- A write is about a row that does not exist. -/
  | missingRow
  /-- Anything else. -/
  | backend
  deriving DecidableEq

def StoreFault.heading : StoreFault → String
  | unavailable => "store unavailable: "
  | lockTimeout => "lock wait timed out: "
  | conflict => "conflict: "
  | constraint => "constraint violated: "
  | missingRow => "row not found: "
  | backend => "storage error: "

/-- A fault of the store, with its details. -/
structure StoreError where
  fault : StoreFault
  detail : String
  deriving DecidableEq

def StoreError.message (error : StoreError) : String := error.fault.heading ++ error.detail

end Passbook
