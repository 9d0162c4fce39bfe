import Passbook.Store.Interface

/-!
Requests as callers ask for them. The rules of the ledger are looked at when a wish becomes a
request, before the store is asked.
-/

set_option autoImplicit false

namespace Passbook

/-- A request as it is asked for, not judged yet. Timeouts are in milliseconds. -/
inductive Wish
  | lock (id : AccountId) (timeout : Option Nat)
  | find (id : AccountId)
  | findName (username : String)
  | insert (username passwordHash : String)
  | setBalance (id : AccountId) (balance : Decimal)
  | append (account : Option AccountId) (kind : String) (amount : Decimal)
  | list (id : AccountId)

/-- The request that a wish stands for, or the refusal of a wish that breaks the rules of the
ledger. -/
def Wish.request (wish : Wish) (now : Nat) : Except LedgerError Request :=
  match wish with
  | lock id timeout =>
      .ok (.lock id (match timeout with
        | some timeout => .after now timeout
        | none => .never))
  | find id => .ok (.find id)
  | findName username => .ok (.findName username)
  | insert username passwordHash => (Registration.make username passwordHash).map .insert
  | setBalance id balance => .ok (.setBalance id (.ofDecimal balance))
  | append account kind amount => (EntryDraft.make account kind amount).map .append
  | list id => .ok (.list id)

end Passbook
