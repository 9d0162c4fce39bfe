import Passbook.Account
import Passbook.Entry

/-!
How a movement changes a balance, and how a balance follows from its history. `post` is the only
place where a movement is accepted or refused; `replay` recomputes a balance from the entries that
were accepted.
-/

set_option autoImplicit false

namespace Passbook

/-- The balance after one movement. -/
def post (balance : Money) (kind : EntryKind) (amount : Amount) : Except LedgerError Money :=
  match kind with
  | .credit => balance.credit amount
  | .debit => balance.debit amount

/-- What has come of posting movements one after the other: the balance, the movements that were
accepted, and the outcome of each, the last one first. -/
structure Chain where
  balance : Money
  accepted : List Entry
  outcomes : List (Except LedgerError Money)

namespace Chain

/-- Posts one more movement, if it is one. A refused movement leaves the balance as it is. -/
def extend (chain : Chain) (movement : Except LedgerError Entry) : Chain :=
  match movement with
  | .error refusal => { chain with outcomes := .error refusal :: chain.outcomes }
  | .ok entry =>
      match post chain.balance entry.kind entry.amount with
      | .error refusal => { chain with outcomes := .error refusal :: chain.outcomes }
      | .ok balance => ⟨balance, entry :: chain.accepted, .ok balance :: chain.outcomes⟩

def ofMovements (start : Money) (movements : List (Except LedgerError Entry)) : Chain :=
  movements.foldl extend ⟨start, [], []⟩

end Chain

/-- The balance after a history of entries, from a given start. Intermediate balances may be
negative. -/
def replay (start : Money) (entries : List Entry) : Except LedgerError Money :=
  match entries.foldlM (fun balance entry => balance.add? entry.signed) start.value with
  | some balance => .ok (.ofDecimal balance)
  | none => .error (.invariantViolation "ledger replay overflow")

/-- An account with the entries that refer to it. -/
structure Statement where
  account : Account
  entries : List Entry

namespace Statement

/-- The sums of credits and of debits; none if a sum is too large for a decimal. -/
def totals? (statement : Statement) : Option (Decimal × Decimal) :=
  statement.entries.foldlM (fun (credits, debits) entry =>
    match entry.kind with
    | .credit => (credits.add? entry.amount.value).map fun credits => (credits, debits)
    | .debit => (debits.add? entry.amount.value).map fun debits => (credits, debits))
    (Decimal.zero, Decimal.zero)

/-- The balance that the history gives an account that opened empty. -/
def replayed (statement : Statement) : Except LedgerError Money := replay .zero statement.entries

def isConsistent (statement : Statement) : Bool :=
  match statement.replayed with
  | .ok balance => balance == statement.account.balance
  | .error _ => false

end Statement

end Passbook
