import Passbook.Proofs.Shared.Commitment

/-!
What a posting knows of the committed balance of its account. While it holds the row nobody else
changes the balance, provided that other units stage balances only for rows that they hold; so what
it was told when it was given the row is true until its end.
-/

set_option autoImplicit false

namespace Passbook

/-- Whether a failure is a refusal by the rules of the ledger that reports a balance. -/
def PostingError.isRefusal : PostingError → Bool
  | .insufficientFunds _ _ _ => true
  | .limitExceeded _ _ _ => true
  | _ => false

/-- Whether the balance of the account has decided a posting. -/
def Posting.isDecision : Posting.Result → Bool
  | .ok _ => true
  | .error error => error.isRefusal

theorem PostingError.kind_of_isRefusal {error : PostingError} (refused : error.isRefusal = true) :
    error.kind ≠ .notFound := by
  cases error <;> simp [isRefusal, kind] at refused ⊢

namespace Memory

variable {memory after : Memory} {unit mine : UnitId} {id : AccountId}

/-- Whether a unit stages balances only for rows that it holds, and creates accounts empty. -/
def Guarded (memory : Memory) (unit : UnitId) : Prop :=
  ∀ staged, memory.units unit = some staged →
    (∀ id, staged.balances id ≠ none → memory.holds unit id = true) ∧
      ∀ account ∈ staged.created, account.balance = .zero

theorem guarded_of_empty (known : memory.units unit = some .empty) : memory.Guarded unit := by
  intro staged same
  rw [known] at same
  cases same
  exact ⟨fun _ staged => absurd rfl staged, fun _ created => by cases created⟩

/-- The balance of an account whose row is held by one unit survives the end of another one. -/
theorem balanceOf_publish_of_held (guarded : memory.Guarded unit)
    (held : memory.holds mine id = true) (different : unit ≠ mine) :
    (memory.publish unit).balanceOf id = memory.balanceOf id := by
  cases known : memory.units unit with
  | none =>
      have nothing : memory.staged unit = .empty := by rw [staged, known, Option.getD_none]
      exact balanceOf_publish_unstaged (by rw [nothing]; rfl)
        (by rw [nothing]; exact fun _ created => by cases created)
  | some staged =>
      have same := staged_of_units known
      obtain ⟨rows, created⟩ := guarded staged known
      refine balanceOf_publish_unstaged ?_ (same ▸ created)
      rw [same]
      by_cases unstaged : staged.balances id = none
      · exact unstaged
      · exact absurd (holds_unique (rows id unstaged) held) different

end Memory

namespace Posting

open Memory (Progress)

/-- What the rules say to a posting on a given balance. -/
def judgement (posting : Posting) (balance : Money) : Except PostingError Money :=
  match post balance posting.kind posting.amount with
  | .ok next => .ok next
  | .error refusal => .error (.ofRefusal posting.account balance posting.amount refusal)

/-- Whether the account's committed balance decides the posting as it has been decided. -/
def Phase.Knows (posting : Posting) (memory : Memory) : Phase UnitId Progress → Prop
  | .writing _ balance _ => posting.judgement (memory.balanceOf posting.account) = .ok balance
  | .appending _ balance _ => posting.judgement (memory.balanceOf posting.account) = .ok balance
  | .committing _ receipt _ =>
      posting.judgement (memory.balanceOf posting.account) = .ok receipt.balance
  | .undoing _ cause _ =>
      cause.isRefusal = true → posting.judgement (memory.balanceOf posting.account) = .error cause
  | _ => True

variable {posting : Posting} {memory after : Memory} {unit : UnitId}

theorem Phase.Knows.congr {phase : Phase UnitId Progress} (knows : phase.Knows posting memory)
    (same : after.balanceOf posting.account = memory.balanceOf posting.account) :
    phase.Knows posting after := by
  cases phase with
  | opening progress => trivial
  | locking unit progress => trivial
  | writing unit balance progress => simpa only [Phase.Knows, same] using knows
  | appending unit balance progress => simpa only [Phase.Knows, same] using knows
  | committing unit receipt progress => simpa only [Phase.Knows, same] using knows
  | undoing unit cause progress => simpa only [Phase.Knows, same] using knows

end Posting

namespace Shared

open Memory (Progress)

def Course.Knows (posting : Posting) (memory : Memory) :
    Course (Posting.Phase UnitId Progress) Posting.Result → Prop
  | .running phase => phase.Knows posting memory
  | .ended _ => True
  | .dropped => True

variable {posting : Posting} {memory after : Memory} {unit : UnitId}

theorem locked_balance {account : Account} (known : memory.units unit = some .empty)
    (locking : Memory.Locking unit posting.account memory (.ready (.ok (some account))) after) :
    after.balanceOf posting.account = account.balance := by
  cases locking with
  | locks held seen =>
      have staged : (memory.join unit posting.account).units unit = some .empty :=
        (congrFun (Memory.units_join memory unit posting.account) unit).trans known
      rw [Memory.view_of_empty staged] at seen
      rw [Memory.balanceOf, seen, Option.map_some, Option.getD_some]

theorem move_knows {phase : Posting.Phase UnitId Progress}
    {turn : Turn (Posting.Phase UnitId Progress) Posting.Result} (fits : phase.Fits posting memory)
    (knows : phase.Knows posting memory) (move : Posting.Move posting memory phase turn after) :
    (Course.ofTurn turn).Knows posting after := by
  have unchanged : ∀ {unit}, Memory.Acts unit memory after →
      after.balanceOf posting.account = memory.balanceOf posting.account := fun acts =>
    Memory.balanceOf_congr acts.unpublished.1 posting.account
  cases move with
  | keepsOpening opening => trivial
  | opens opening => trivial
  | failsToOpen opening => trivial
  | interruptedOpening interruption => trivial
  | keepsLocking locking => trivial
  | accepts locking posted =>
      have balance := locked_balance fits locking
      simp only [Course.ofTurn, Course.Knows, Posting.Phase.Knows,
        Posting.judgement, balance, posted]
  | refuses locking posted =>
      have balance := locked_balance fits locking
      intro refused
      simp only [Posting.judgement, balance, posted]
  | misses locking => exact fun refused => by cases refused
  | timesOut locking => trivial
  | keepsWriting setting => exact knows.congr (unchanged setting.acts)
  | writes setting => exact knows.congr (unchanged setting.acts)
  | failsToWrite setting => exact fun refused => by cases refused
  | keepsAppending appending => exact knows.congr (unchanged appending.acts)
  | appends appending => exact knows.congr (unchanged appending.acts)
  | appendsTooLate interruption appending => trivial
  | failsToAppend appending => exact fun refused => by cases refused
  | interrupted stage interruption owned early withdrawn => trivial
  | keepsCommitting committing =>
      exact knows.congr (Memory.balanceOf_congr committing.rearmed.accounts _)
  | commits committing => trivial
  | failsToCommit committing => trivial
  | keepsUndoing rollingBack =>
      exact knows.congr (Memory.balanceOf_congr rollingBack.rearmed.accounts _)
  | undoes rollingBack => trivial

theorem accepted_of_move {phase : Posting.Phase UnitId Progress} {receipt : Receipt}
    (knows : phase.Knows posting memory)
    (move : Posting.Move posting memory phase (.ends (.ok receipt)) after) :
    posting.judgement (memory.balanceOf posting.account) = .ok receipt.balance := by
  cases move with
  | commits committing => exact knows

theorem ofStore_isRefusal (stage : Stage) (error : StoreError) :
    (PostingError.ofStore stage error).isRefusal = false := by
  unfold PostingError.ofStore
  split <;> rfl

private theorem ofInterruption_isRefusal (stage : Stage) (interruption : Interruption) :
    (PostingError.ofInterruption stage interruption).isRefusal = false := by
  cases interruption <;> rfl

theorem refused_of_move {phase : Posting.Phase UnitId Progress} {error : PostingError}
    (knows : phase.Knows posting memory)
    (move : Posting.Move posting memory phase (.ends (.error error)) after)
    (refused : error.isRefusal = true) :
    posting.judgement (memory.balanceOf posting.account) = .error error := by
  cases move with
  | failsToOpen opening => rw [ofStore_isRefusal] at refused; cases refused
  | interruptedOpening interruption => rw [ofInterruption_isRefusal] at refused; cases refused
  | timesOut locking => cases refused
  | appendsTooLate interruption appending => rw [ofInterruption_isRefusal] at refused; cases refused
  | interrupted stage interruption owned early withdrawn =>
      rw [ofInterruption_isRefusal] at refused; cases refused
  | failsToCommit committing => rw [ofStore_isRefusal] at refused; cases refused
  | undoes rollingBack => exact knows refused

/-!
## What others may stage
-/

theorem guarded_of_fits {phase : Posting.Phase UnitId Progress} (fits : phase.Fits posting memory)
    (has : phase.unit? = some unit) : memory.Guarded unit := by
  have written : ∀ {balance entries}, memory.units unit = some (posting.staged balance entries) →
      memory.holds unit posting.account = true → memory.Guarded unit := by
    intro balance entries known held staged same
    rw [known] at same
    cases same
    refine ⟨fun id staged => ?_, fun _ created => by cases created⟩
    by_cases mine : id = posting.account
    · rw [mine]
      exact held
    · exact absurd (assign_other (fun _ => none) (some balance) mine) staged
  cases phase with
  | opening progress => cases has
  | locking other progress =>
      cases has
      exact Memory.guarded_of_empty fits
  | writing other balance progress =>
      cases has
      exact Memory.guarded_of_empty fits.1
  | appending other balance progress =>
      cases has
      exact written fits.1 fits.2.held
  | committing other receipt progress =>
      cases has
      obtain ⟨⟨entry, records, known⟩, secured⟩ := fits
      exact written known secured.held
  | undoing other cause progress =>
      cases has
      rcases fits with ⟨missed, known⟩ | ⟨held, known | ⟨balance, known⟩⟩
      · exact Memory.guarded_of_empty known
      · exact Memory.guarded_of_empty known
      · exact written known held

variable {one two : Option UnitId}

/-- The balance of an account whose row is held by one client survives a step of another one. -/
theorem Effect.balanceOf_of_held {id : AccountId} (effect : Effect memory one two after)
    (guarded : ∀ other, one = some other → memory.Guarded other)
    (held : memory.holds unit id = true) (apart : one ≠ some unit) :
    after.balanceOf id = memory.balanceOf id := by
  cases effect with
  | idles rearmed => exact Memory.balanceOf_congr rearmed.accounts id
  | opens rearmed => exact Memory.balanceOf_congr rearmed.accounts id
  | acts acts => exact Memory.balanceOf_congr acts.unpublished.1 id
  | drops acts => exact Memory.balanceOf_congr acts.unpublished.1 id
  | @publishes other before rearmed free =>
      have guard : before.Guarded other := by
        intro staged known
        obtain ⟨rows, created⟩ :=
          guarded other rfl staged ((congrFun rearmed.units other).symm.trans known)
        exact ⟨fun row staged => rearmed.holds.trans (rows row staged), created⟩
      rw [Memory.balanceOf_publish_of_held guard (rearmed.holds.trans held)
        fun same => apart (same ▸ rfl)]
      exact Memory.balanceOf_congr rearmed.accounts id

/-- What a posting knows is out of the reach of others. -/
theorem knows_others {phase : Posting.Phase UnitId Progress} (fits : phase.Fits posting memory)
    (knows : phase.Knows posting memory) (effect : Effect memory one two after)
    (guarded : ∀ other, one = some other → memory.Guarded other)
    (apart : ∀ unit, phase.unit? = some unit → one ≠ some unit) : phase.Knows posting after := by
  have kept : ∀ {unit}, phase.unit? = some unit → memory.holds unit posting.account = true →
      phase.Knows posting after := fun has held =>
    knows.congr (effect.balanceOf_of_held guarded held (apart _ has))
  cases phase with
  | opening progress => trivial
  | locking unit progress => trivial
  | writing unit balance progress => exact kept rfl fits.2.held
  | appending unit balance progress => exact kept rfl fits.2.held
  | committing unit receipt progress => exact kept rfl fits.2.held
  | undoing unit cause progress =>
      rcases fits with ⟨missed, known⟩ | ⟨held, known⟩
      · exact fun refused => absurd missed (PostingError.kind_of_isRefusal refused)
      · exact kept rfl held

end Shared

end Passbook
