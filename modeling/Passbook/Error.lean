import Passbook.Decimal.Text

/-!
Why the ledger's own rules refuse something: malformed input, a broken invariant, a missing account,
or a movement that the balance does not allow. Faults of storage are elsewhere.
-/

set_option autoImplicit false

namespace Passbook

/-- A refusal by the rules of the ledger. -/
inductive LedgerError
  | validation (reason : String)
  | invariantViolation (reason : String)
  | invalidId (reason : String)
  | notFound
  | insufficientFunds (balance requested : Decimal)
  | limitExceeded (balance requested : Decimal)
  deriving DecidableEq

namespace LedgerError

def message : LedgerError → String
  | validation reason => "validation failed: " ++ reason
  | invariantViolation reason => "invariant violated: " ++ reason
  | invalidId reason => "invalid identifier: " ++ reason
  | notFound => "not found"
  | insufficientFunds balance requested =>
      "insufficient funds: balance " ++ balance.render ++ ", requested " ++ requested.render
  | limitExceeded balance requested =>
      "balance limit exceeded: balance " ++ balance.render ++ ", requested " ++ requested.render

end LedgerError

end Passbook
