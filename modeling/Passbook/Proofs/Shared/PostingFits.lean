import Passbook.Proofs.Memory.Published
import Passbook.Proofs.Shared.Invariant

/-!
What a posting has staged in each of its phases, and from when to when it holds the row of its
account. No other client can change either, whatever it asks of its own units.
-/

set_option autoImplicit false

namespace Passbook.Posting

open Memory (Progress)

/-- What a posting has staged once it has set its balance, with the entries that it has appended. -/
def staged (posting : Posting) (balance : Money) (entries : List Entry) : Staged :=
  ⟨[], assign (fun _ => none) posting.account (some balance), entries⟩

/-- The unit of a posting holds the row of its account, and there is such an account. -/
structure Secured (posting : Posting) (memory : Memory) (unit : UnitId) : Prop where
  held : memory.holds unit posting.account = true
  present : (memory.account? posting.account).isSome

/-- Whether an entry is the one that a receipt of a posting names. -/
structure Records (posting : Posting) (receipt : Receipt) (entry : Entry) : Prop where
  id : entry.id = receipt.entry
  account : entry.account = some posting.account
  kind : entry.kind = posting.kind
  amount : entry.amount = posting.amount

def Phase.hasRow {υ π : Type} : Phase υ π → Bool
  | .writing _ _ _ => true
  | .appending _ _ _ => true
  | .committing _ _ _ => true
  | .undoing _ cause _ => cause.kind != .notFound
  | _ => false

/-- What a posting has staged in a phase, and the row that it holds. -/
def Phase.Fits (posting : Posting) (memory : Memory) : Phase UnitId Progress → Prop
  | .opening _ => True
  | .locking unit _ => memory.units unit = some .empty
  | .writing unit _ _ => memory.units unit = some .empty ∧ posting.Secured memory unit
  | .appending unit balance _ =>
      memory.units unit = some (posting.staged balance []) ∧ posting.Secured memory unit
  | .committing unit receipt _ =>
      (∃ entry, posting.Records receipt entry ∧
        memory.units unit = some (posting.staged receipt.balance [entry])) ∧
        posting.Secured memory unit
  | .undoing unit cause _ =>
      (cause.kind = .notFound ∧ memory.units unit = some .empty) ∨
        (memory.holds unit posting.account = true ∧
          (memory.units unit = some .empty ∨
            ∃ balance, memory.units unit = some (posting.staged balance [])))

variable {posting : Posting} {memory after : Memory} {unit : UnitId} {balance : Money}

theorem Secured.join (secured : posting.Secured memory unit) :
    memory.join unit posting.account = memory :=
  Memory.join_of_holds secured.held

theorem Secured.rearmed (secured : posting.Secured memory unit)
    (rearmed : Memory.Rearmed memory after) :
    posting.Secured after unit where
  held := rearmed.holds.trans secured.held
  present := (Memory.account?_congr rearmed.accounts posting.account) ▸ secured.present

theorem Secured.setting {result : Poll Progress (Except StoreError Unit)}
    (secured : posting.Secured memory unit)
    (setting : Memory.Setting unit posting.account balance memory result after) :
    posting.Secured after unit := by
  cases setting with
  | sleeps progress rearmed => exact secured.rearmed rearmed
  | waits rearmed free =>
      rw [(secured.rearmed rearmed).join]
      exact secured.rearmed rearmed
  | fails error noTimeout rearmed => exact secured.rearmed rearmed
  | misses error noTimeout rearmed =>
      rw [(secured.rearmed rearmed).join]
      exact secured.rearmed rearmed
  | sets rearmed held seen =>
      rw [(secured.rearmed rearmed).join]
      exact ⟨(secured.rearmed rearmed).held, (secured.rearmed rearmed).present⟩

theorem Secured.appending {draft : EntryDraft} {result : Poll Progress (Except StoreError Entry)}
    (secured : posting.Secured memory unit)
    (appending : Memory.Appending unit draft memory result after) :
    posting.Secured after unit := by
  cases appending with
  | sleeps progress rearmed => exact secured.rearmed rearmed
  | fails error noTimeout rearmed => exact secured.rearmed rearmed
  | appends time rearmed seen =>
      exact ⟨(secured.rearmed rearmed).held, (secured.rearmed rearmed).present⟩

/-- A posting that holds its row does not wait for it when it sets the balance. -/
theorem Secured.units_setting {result : Poll Progress (Except StoreError Unit)}
    (secured : posting.Secured memory unit)
    (setting : Memory.Setting unit posting.account balance memory result after)
    (unset : result ≠ .ready (.ok ())) :
    after.units unit = memory.units unit := by
  cases setting with
  | sleeps progress rearmed => rw [rearmed.units]
  | waits rearmed free => rw [(secured.rearmed rearmed).join, rearmed.units]
  | fails error noTimeout rearmed => rw [rearmed.units]
  | misses error noTimeout rearmed => rw [(secured.rearmed rearmed).join, rearmed.units]
  | sets rearmed held seen => exact absurd rfl unset

theorem Secured.units_writes (secured : posting.Secured memory unit)
    (known : memory.units unit = some .empty)
    (setting : Memory.Setting unit posting.account balance memory (.ready (.ok ())) after) :
    after.units unit = some (posting.staged balance []) := by
  cases setting with
  | sets rearmed held seen =>
      rw [(secured.rearmed rearmed).join, Memory.setBalance, Memory.units_stage_same,
        Memory.staged_of_units ((congrFun rearmed.units unit).trans known)]
      rfl

theorem units_appending {draft : EntryDraft} {result : Poll Progress (Except StoreError Entry)}
    (appending : Memory.Appending unit draft memory result after)
    (unset : ∀ entry, result ≠ .ready (.ok entry)) :
    after.units unit = memory.units unit := by
  cases appending with
  | sleeps progress rearmed => rw [rearmed.units]
  | fails error noTimeout rearmed => rw [rearmed.units]
  | appends time rearmed seen => exact absurd rfl (unset _)

theorem units_appends {entry : Entry} (known : memory.units unit = some (posting.staged balance []))
    (appending : Memory.Appending unit ⟨some posting.account, posting.amount, posting.kind⟩ memory
      (.ready (.ok entry)) after) :
    posting.Records ⟨entry.id, balance⟩ entry ∧
      after.units unit = some (posting.staged balance [entry]) := by
  cases appending with
  | appends time rearmed seen =>
      refine ⟨⟨rfl, rfl, rfl, rfl⟩, ?_⟩
      simp only [Memory.append, Memory.units_stage_same,
        Memory.staged_of_units ((congrFun rearmed.units unit).trans known)]
      rfl

theorem Phase.Fits.rearmed {phase : Phase UnitId Progress} (fits : phase.Fits posting memory)
    (rearmed : Memory.Rearmed memory after) : phase.Fits posting after := by
  cases phase with
  | opening progress => trivial
  | locking unit progress => exact (congrFun rearmed.units unit).trans fits
  | writing unit balance progress =>
      exact ⟨(congrFun rearmed.units unit).trans fits.1, fits.2.rearmed rearmed⟩
  | appending unit balance progress =>
      exact ⟨(congrFun rearmed.units unit).trans fits.1, fits.2.rearmed rearmed⟩
  | committing unit receipt progress =>
      obtain ⟨⟨entry, records, staged⟩, secured⟩ := fits
      exact ⟨⟨entry, records, (congrFun rearmed.units unit).trans staged⟩, secured.rearmed rearmed⟩
  | undoing unit cause progress =>
      have units := congrFun rearmed.units unit
      rcases fits with ⟨missed, known⟩ | ⟨held, known⟩
      · exact .inl ⟨missed, units.trans known⟩
      · exact .inr ⟨rearmed.holds.trans held,
          known.imp units.trans fun staged => staged.imp fun _ => units.trans⟩

end Passbook.Posting

namespace Passbook.Shared

open Memory (Progress Rearmed)

theorem kind_ofRefusal (account : AccountId) (balance : Money) (requested : Amount)
    (refusal : LedgerError) :
    (PostingError.ofRefusal account balance requested refusal).kind ≠ .notFound := by
  cases refusal <;> simp [PostingError.ofRefusal, PostingError.kind]

def Course.Fits (posting : Posting) (memory : Memory) :
    Course (Posting.Phase UnitId Progress) Posting.Result → Prop
  | .running phase => phase.Fits posting memory
  | .ended _ => True
  | .dropped => True

variable {posting : Posting} {memory after : Memory} {unit : UnitId}

theorem move_fits {phase : Posting.Phase UnitId Progress}
    {turn : Turn (Posting.Phase UnitId Progress) Posting.Result} (fits : phase.Fits posting memory)
    (move : Posting.Move posting memory phase turn after) :
    (Course.ofTurn turn).Fits posting after := by
  cases move with
  | keepsOpening opening => trivial
  | opens opening =>
      cases opening with
      | opens rearmed => exact assign_same _ _ _
  | failsToOpen opening => trivial
  | interruptedOpening interruption => trivial
  | keepsLocking locking =>
      cases locking with
      | waits deadline free => exact (congrFun (Memory.units_join _ _ _) _).trans fits
  | @accepts unit _ _ _ _ locking posted =>
      cases locking with
      | locks held seen =>
          have staged : (memory.join unit posting.account).units unit = some .empty :=
            (congrFun (Memory.units_join memory unit posting.account) unit).trans fits
          rw [Memory.view_of_empty staged] at seen
          exact ⟨staged, held, by simp [seen]⟩
  | refuses locking posted =>
      cases locking with
      | locks held seen =>
          exact .inr ⟨held, .inl ((congrFun (Memory.units_join _ _ _) _).trans fits)⟩
  | misses locking =>
      cases locking with
      | misses held unseen => exact .inl ⟨rfl, (congrFun (Memory.units_join _ _ _) _).trans fits⟩
  | timesOut locking => trivial
  | keepsWriting setting =>
      exact ⟨(fits.2.units_setting setting (by simp)).trans fits.1, fits.2.setting setting⟩
  | writes setting => exact ⟨fits.2.units_writes fits.1 setting, fits.2.setting setting⟩
  | failsToWrite setting =>
      exact .inr ⟨(fits.2.setting setting).held,
        .inl ((fits.2.units_setting setting (by simp)).trans fits.1)⟩
  | keepsAppending appending =>
      exact ⟨(Posting.units_appending appending (by simp)).trans fits.1, fits.2.appending appending⟩
  | appends appending =>
      exact ⟨⟨_, Posting.units_appends fits.1 appending⟩, fits.2.appending appending⟩
  | appendsTooLate interruption appending => trivial
  | failsToAppend appending =>
      exact .inr ⟨(fits.2.appending appending).held,
        .inr ⟨_, (Posting.units_appending appending (by simp)).trans fits.1⟩⟩
  | interrupted stage interruption owned early withdrawn => trivial
  | keepsCommitting committing =>
      exact Posting.Phase.Fits.rearmed fits committing.rearmed
  | commits committing => trivial
  | failsToCommit committing => trivial
  | keepsUndoing rollingBack => exact Posting.Phase.Fits.rearmed fits rollingBack.rearmed
  | undoes rollingBack => trivial

variable {one two : Option UnitId}

theorem secured_others (secured : posting.Secured memory unit)
    (effect : Effect memory one two after) (apart : one ≠ some unit ∧ two ≠ some unit) :
    posting.Secured after unit where
  held := effect.holds_other apart.1 secured.held
  present := effect.isSome_account? secured.present

/-- What a posting has staged and holds is out of the reach of others. -/
theorem fits_others {phase : Posting.Phase UnitId Progress} (fits : phase.Fits posting memory)
    (effect : Effect memory one two after)
    (apart : ∀ unit, phase.unit? = some unit → one ≠ some unit ∧ two ≠ some unit) :
    phase.Fits posting after := by
  have units : ∀ unit, phase.unit? = some unit → after.units unit = memory.units unit :=
    fun unit has =>
    effect.units_other (apart unit has).1 (apart unit has).2
  cases phase with
  | opening progress => trivial
  | locking unit progress => exact (units unit rfl).trans fits
  | writing unit balance progress =>
      exact ⟨(units unit rfl).trans fits.1, secured_others fits.2 effect (apart unit rfl)⟩
  | appending unit balance progress =>
      exact ⟨(units unit rfl).trans fits.1, secured_others fits.2 effect (apart unit rfl)⟩
  | committing unit receipt progress =>
      obtain ⟨⟨entry, records, staged⟩, secured⟩ := fits
      exact ⟨⟨entry, records, (units unit rfl).trans staged⟩,
        secured_others secured effect (apart unit rfl)⟩
  | undoing unit cause progress =>
      have same := units unit rfl
      rcases fits with ⟨missed, known⟩ | ⟨held, known⟩
      · exact .inl ⟨missed, same.trans known⟩
      · exact .inr ⟨effect.holds_other (apart unit rfl).1 held,
          known.imp same.trans fun staged => staged.imp fun _ => same.trans⟩

/-- What a client has staged and holds, if it is a posting. -/
def Client.Fits (memory : Memory) : Client → Prop
  | .posting posting course => course.Fits posting memory
  | _ => True

private theorem fits_of_isOver {client : Client} (isOver : client.isOver = true) :
    client.Fits memory := by
  cases client with
  | posting wanted course => cases course <;> trivial
  | inquiry asked course => trivial
  | hand course => trivial

theorem posting_fits : Invariant (fun _ => True) Client.Fits where
  rearms {memory after client} rearmed fits := by
    cases client using Client.running_or_over with
    | posting wanted phase => exact Posting.Phase.Fits.rearmed fits rearmed
    | inquiry asked phase => trivial
    | hand task => trivial
    | settled client isOver => exact fits_of_isOver isOver
  posts memory posting := trivial
  inquires memory inquiry := trivial
  opens memory deadline := trivial
  asks allowed fits := trivial
  finishes fits := trivial
  proceeds client world fits := by
    cases client using Client.running_or_over with
    | posting wanted phase => exact move_fits fits (wanted.step_move phase world)
    | inquiry asked phase => trivial
    | hand task => trivial
    | settled client isOver =>
        rw [Client.proceed_of_isOver isOver]
        exact fits
  givesUp client world fits := by
    cases client using Client.running_or_over with
    | posting wanted phase => trivial
    | inquiry asked phase => trivial
    | hand task => trivial
    | settled client isOver =>
        rw [Client.giveUp_of_isOver isOver]
        exact fits
  others {memory after client other next} fits otherFits effect apart := by
    cases client using Client.running_or_over with
    | posting wanted phase => exact fits_others fits effect apart
    | inquiry asked phase => trivial
    | hand task => trivial
    | settled client isOver => exact fits_of_isOver isOver

end Passbook.Shared
