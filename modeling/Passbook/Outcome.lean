import Passbook.Call.Posting
import Passbook.Http.Exchange
import Passbook.Store.Interface

/-!
What commands are answered with, whether they are given to a session or to a store of their own.
-/

set_option autoImplicit false

namespace Passbook

inductive Outcome
  | done
  | account (account : Account)
  | found (account : Option Account)
  | entry (entry : Entry)
  | entries (entries : List Entry)
  | statement (statement : Option Statement)
  | receipt (receipt : Receipt)
  | answer (answer : Http.Answer)
  | refused (refusal : LedgerError)
  | storeFailed (error : StoreError)
  | postingFailed (error : PostingError)
  | interrupted (interruption : Interruption)
  | contextIs (interruption : Option Interruption) (deadline : Deadline) (now : Nat)
  | deadlineIs (deadline : Deadline) (now : Nat)
  | earlierIs (sameAsFirst sameAsSecond : Bool) (deadline : Deadline) (now : Nat)
  | tokenIs (cancelled : Bool)
  | taskIs (finished : Bool)
  /-- The call would wait for ever. -/
  | blocked
  /-- The task was aborted before it had finished. -/
  | aborted
  | noUnit
  | noTask
  | noToken
  /-- No request has this form. -/
  | impossibleRequest
  /-- A description for the reader of a log. -/
  | described (text : String)
  /-- A name that the command needs is not known. -/
  | unknownName

namespace Outcome

def ofResult {α : Type} (success : α → Outcome) : Except StoreError α → Outcome
  | .ok value => success value
  | .error error => .storeFailed error

def ofReply : (request : Request) → Except StoreError request.Reply → Outcome
  | .lock _ _ => ofResult .found
  | .find _ => ofResult .found
  | .findName _ => ofResult .found
  | .insert _ => ofResult .account
  | .setBalance _ _ => ofResult fun _ => .done
  | .append _ => ofResult .entry
  | .list _ => ofResult .entries

def ofPosting : Posting.Result → Outcome
  | .ok value => .receipt value
  | .error error => .postingFailed error

end Outcome

end Passbook
