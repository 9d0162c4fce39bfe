import Mathlib.Data.List.Forall2
import Passbook.Proofs.Memory.Published

/-!
Two ledgers in memory that agree about one account. In the whole ledger, units of work are busy with
other accounts too; in the part, only with this one, or with new accounts. The two number units and
entries differently, so it is said which of them correspond to each other.
-/

set_option autoImplicit false

namespace Passbook

/-- Which entries of two ledgers correspond to each other. The order of their identifiers is the
same in both. -/
structure Renumbering where
  renames : EntryId → EntryId → Prop
  ordered : ∀ {one other next another}, renames one other → renames next another →
    (one.value < next.value ↔ other.value < another.value)

/-- Whether two entries differ in nothing but their identifiers, and these correspond to each other.
-/
structure Renumbering.SameEntry (renumbering : Renumbering) (one other : Entry) : Prop where
  ids : renumbering.renames one.id other.id
  rest : one = { other with id := one.id }

/-- Which units of work and which entries of two ledgers correspond to each other. -/
structure Pairing where
  units : UnitId → UnitId → Prop
  unique : Relator.BiUnique units
  entries : Renumbering

namespace Pairing

variable {pairing later last : Pairing} {drawn more : Nat}

/-- Whether a pairing is a later one. Units that have been added to it since are newer than those
that were drawn before. -/
structure Grows (pairing later : Pairing) (drawn : Nat) : Prop where
  units : ∀ {unit twin}, pairing.units unit twin → later.units unit twin
  fresh : ∀ {unit twin}, later.units unit twin → pairing.units unit twin ∨ drawn < unit.number
  entries : ∀ {one other}, pairing.entries.renames one other → later.entries.renames one other

theorem Grows.refl (pairing : Pairing) (drawn : Nat) : Grows pairing pairing drawn := ⟨id, .inl, id⟩

theorem Grows.trans (first : Grows pairing later drawn) (second : Grows later last more)
    (ahead : drawn ≤ more) :
    Grows pairing last drawn where
  units paired := second.units (first.units paired)
  fresh paired :=
    (second.fresh paired).elim first.fresh fun new => .inr (Nat.lt_of_le_of_lt ahead new)
  entries renamed := second.entries (first.entries renamed)

theorem twins_ne {unit twin next another : UnitId} (too : pairing.units next another)
    (paired : pairing.units unit twin) (different : next ≠ unit) : another ≠ twin := by
  rintro rfl
  exact different (pairing.unique.1 too paired)

theorem lone_ne {unit twin next : UnitId} (alone : ∀ other, ¬ pairing.units next other)
    (paired : pairing.units unit twin) : next ≠ unit := by
  rintro rfl
  exact alone twin paired

/-- The pairing with one more pair of units. -/
def withUnit (pairing : Pairing) (unit twin : UnitId)
    (fresh : ∀ {one other}, pairing.units one other → one ≠ unit ∧ other ≠ twin) :
    Pairing where
  units one other := pairing.units one other ∨ (one = unit ∧ other = twin)
  unique := by
    constructor
    · rintro one next other (paired | ⟨one_eq, other_eq⟩) (too | ⟨next_eq, same⟩)
      · exact pairing.unique.1 paired too
      · exact absurd same (fresh paired).2
      · exact absurd other_eq (fresh too).2
      · exact one_eq.trans next_eq.symm
    · rintro one other another (paired | ⟨one_eq, other_eq⟩) (too | ⟨same, another_eq⟩)
      · exact pairing.unique.2 paired too
      · exact absurd same (fresh paired).1
      · exact absurd one_eq (fresh too).1
      · exact other_eq.trans another_eq.symm
  entries := pairing.entries

/-- The pairing with one more pair of entries, which are newer than the others. -/
def withEntry (pairing : Pairing) (entry twin : EntryId)
    (last : ∀ {one other}, pairing.entries.renames one other → one.value < entry.value ∧
      other.value < twin.value) :
    Pairing where
  units := pairing.units
  unique := pairing.unique
  entries := {
    renames := fun one other => pairing.entries.renames one other ∨ (one = entry ∧ other = twin)
    ordered := by
      rintro one other next another (renamed | ⟨rfl, rfl⟩) (too | ⟨rfl, rfl⟩)
      · exact pairing.entries.ordered renamed too
      · exact iff_of_true (last renamed).1 (last renamed).2
      · exact iff_of_false (Int.not_lt.mpr (Int.le_of_lt (last too).1))
          (Int.not_lt.mpr (Int.le_of_lt (last too).2))
      · exact iff_of_false (Int.lt_irrefl _) (Int.lt_irrefl _) }

end Pairing

/-- Whether two accounts are the same, but for the balances of accounts other than the one that is
looked at. -/
structure Account.Alike (row : AccountId) (one other : Account) : Prop where
  ids : one.id = other.id
  usernames : one.username = other.username
  hashes : one.passwordHash = other.passwordHash
  balances : one.id = row → one.balance = other.balance

/-- Whether two units have staged the same, but for the identifiers of entries. -/
structure Staged.Same (renumbering : Renumbering) (one other : Staged) : Prop where
  created : one.created = other.created
  balances : one.balances = other.balances
  entries : List.Forall₂ renumbering.SameEntry one.entries other.entries

/-- Whether a unit has staged nothing that concerns an account, and no new account. -/
structure Staged.Elsewhere (row : AccountId) (staged : Staged) : Prop where
  created : staged.created = []
  balances : staged.balances row = none
  entries : ∀ entry ∈ staged.entries, entry.account ≠ some row

namespace Memory

/-- Whether no failure and no delay is ordered. -/
structure Unarmed (faults : FaultPoint → Bool) (delays : FaultPoint → Option Nat) : Prop where
  faults : ∀ point, faults point = false
  delays : ∀ point, delays point = none

/-- Whether a part of a ledger shows an account as the whole ledger does. -/
structure Mirrors (pairing : Pairing) (row : AccountId) (whole part : Memory) : Prop where
  wholeUnarmed : Unarmed whole.faults whole.delays
  partUnarmed : Unarmed part.faults part.delays
  accounts : List.Forall₂ (Account.Alike row) whole.accounts part.accounts
  lastAccount : whole.lastAccount = part.lastAccount
  entries : List.Forall₂ pairing.entries.SameEntry (whole.entriesOf row) (part.entriesOf row)
  queue : List.Forall₂ pairing.units (whole.queues row) (part.queues row)
  units : ∀ {unit twin}, pairing.units unit twin →
    Option.Rel (Staged.Same pairing.entries) (whole.units unit) (part.units twin)
  /-- The units that are busy elsewhere. -/
  others : ∀ unit, (∀ twin, ¬ pairing.units unit twin) → (whole.staged unit).Elsewhere row
  drawnUnits : ∀ {unit twin}, pairing.units unit twin → unit.number ≤ whole.lastUnit ∧
    twin.number ≤ part.lastUnit
  drawnEntries : ∀ {one other}, pairing.entries.renames one other → one.value ≤ whole.lastEntry ∧
    other.value ≤ part.lastEntry

variable {pairing later : Pairing} {row id : AccountId} {whole part : Memory} {unit twin : UnitId}

/-!
## What a unit sees
-/

theorem find?_alike {whole part : List Account}
    (accounts : List.Forall₂ (Account.Alike row) whole part) :
    (whole.find? fun account => account.id == row) =
      part.find? fun account => account.id == row := by
  induction accounts with
  | nil => rfl
  | @cons one other _ _ alike _ ih =>
      obtain ⟨ids, usernames, hashes, balances⟩ := alike
      obtain ⟨id, username, passwordHash, balance⟩ := one
      obtain ⟨otherId, otherUsername, otherHash, otherBalance⟩ := other
      cases ids
      cases usernames
      cases hashes
      by_cases same : id = row
      · cases balances same
        simp [same]
      · simp [same, ih]

theorem Mirrors.account? (mirrors : Mirrors pairing row whole part) :
    whole.account? row = part.account? row :=
  find?_alike mirrors.accounts

theorem Mirrors.staged (mirrors : Mirrors pairing row whole part)
    (paired : pairing.units unit twin) :
    Staged.Same pairing.entries (whole.staged unit) (part.staged twin) := by
  have same := mirrors.units paired
  unfold Memory.staged
  generalize whole.units unit = one, part.units twin = other at same
  cases same with
  | some same => exact same
  | none => exact ⟨rfl, rfl, .nil⟩

theorem Mirrors.view (mirrors : Mirrors pairing row whole part) (paired : pairing.units unit twin) :
    whole.view unit row = part.view twin row := by
  have same := mirrors.staged paired
  have overlays : (whole.staged unit).overlay = (part.staged twin).overlay := by
    funext account
    rw [Staged.overlay, Staged.overlay, same.balances]
  simp only [Memory.view, same.created, mirrors.account?, overlays]

theorem Mirrors.holds (mirrors : Mirrors pairing row whole part)
    (paired : pairing.units unit twin) :
    whole.holds unit row = part.holds twin row := by
  have queue := mirrors.queue
  unfold Memory.holds
  generalize whole.queues row = one, part.queues row = other at queue
  cases queue with
  | nil => rfl
  | cons heads _ =>
      rw [List.head?_cons, List.head?_cons, Bool.eq_iff_iff, beq_iff_eq, beq_iff_eq,
        Option.some_inj, Option.some_inj]
      exact Relator.rel_eq pairing.unique heads paired

theorem Mirrors.history (mirrors : Mirrors pairing row whole part)
    (paired : pairing.units unit twin) :
    List.Forall₂ pairing.entries.SameEntry (whole.history unit row) (part.history twin row) := by
  unfold Memory.history
  rw [List.filter_append, List.filter_append]
  refine List.rel_append mirrors.entries (List.rel_filter ?_ (mirrors.staged paired).entries)
  intro one other same
  rw [same.rest]

/-- Which accounts have been created, and under which names, is the same in both ledgers. -/
theorem find?_username {whole part : List Account}
    (accounts : List.Forall₂ (Account.Alike row) whole part) (username : String) :
    (whole.find? fun account => account.username == username).map (·.id) =
      (part.find? fun account => account.username == username).map (·.id) := by
  induction accounts with
  | nil => rfl
  | @cons one other _ _ alike _ ih =>
      by_cases same : other.username = username
      · simp [alike.usernames, alike.ids, same]
      · simp [alike.usernames, same, ih]

theorem Mirrors.isTaken (mirrors : Mirrors pairing row whole part)
    (paired : pairing.units unit twin) (username : String) :
    whole.isTaken unit username = part.isTaken twin username := by
  have names := find?_username mirrors.accounts username
  simp only [Memory.isTaken, Memory.idOfName?, (mirrors.staged paired).created,
    Option.orElse_eq_orElse, Option.orElse_eq_or, Option.map_or, names]

theorem Mirrors.clash? (mirrors : Mirrors pairing row whole part)
    (paired : pairing.units unit twin) :
    whole.clash? unit = part.clash? twin := by
  have known : ∀ account : Account,
    (whole.accounts.any fun committed => committed.username == account.username) =
      part.accounts.any fun committed => committed.username == account.username := by
    intro account
    rw [← List.isSome_find?, ← List.isSome_find?, ← Option.isSome_map,
      find?_username mirrors.accounts, Option.isSome_map]
  simp only [Memory.clash?, (mirrors.staged paired).created, known]

end Memory

end Passbook
