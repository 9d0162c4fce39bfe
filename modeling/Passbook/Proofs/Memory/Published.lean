import Passbook.Proofs.Memory.Change

/-!
What the committed ledger says about an account, and how the end of a unit of work changes it.
-/

set_option autoImplicit false

namespace Passbook.Memory

variable {memory after : Memory} {unit other : UnitId} {id : AccountId}

/-- The committed balance of an account. An account that does not exist counts as an empty one. -/
def balanceOf (memory : Memory) (id : AccountId) : Money :=
  ((memory.account? id).map (·.balance)).getD .zero

/-- The committed entries of an account, in the order in which they are listed. -/
def entriesOf (memory : Memory) (id : AccountId) : List Entry :=
  memory.entries.filter fun entry => entry.account == some id

theorem account?_congr (same : after.accounts = memory.accounts) (id : AccountId) :
    after.account? id = memory.account? id := by
  rw [account?, account?, same]

theorem id_of_find? {accounts : List Account} {account : Account}
    (found : (accounts.find? fun account => account.id == id) = some account) :
    account.id = id := by
  simpa using List.find?_some found

theorem balanceOf_congr (same : after.accounts = memory.accounts) (id : AccountId) :
    after.balanceOf id = memory.balanceOf id := by
  rw [balanceOf, balanceOf, account?_congr same]

theorem entriesOf_congr (same : after.entries = memory.entries) (id : AccountId) :
    after.entriesOf id = memory.entriesOf id := by
  rw [entriesOf, entriesOf, same]

/-- A unit that holds a row gains nothing by asking for it again. -/
theorem join_of_holds (held : memory.holds unit id = true) : memory.join unit id = memory := by
  rw [holds_iff, List.head?_eq_some_iff] at held
  obtain ⟨others, queue⟩ := held
  simp [join, queue]

theorem view_of_empty (known : memory.units unit = some .empty) (id : AccountId) :
    memory.view unit id = memory.account? id := by
  have plain : Staged.overlay .empty = fun account => account := rfl
  simp only [view, staged_of_units known, plain]
  simp [Staged.empty]

/-!
## Publication
-/

theorem account?_publish (memory : Memory) (unit : UnitId) (id : AccountId) :
    (memory.publish unit).account? id =
      (memory.account? id <|> (memory.staged unit).created.find? fun account => account.id ==
        id).map (memory.staged unit).overlay := by
  have blind : (fun account : Account => account.id == id) ∘ (memory.staged unit).overlay =
      fun account => account.id == id := rfl
  simp only [publish, discard, account?, List.find?_map, List.find?_append, blind,
    Option.orElse_eq_orElse, Option.orElse_eq_or]

theorem isSome_account?_publish (present : (memory.account? id).isSome) :
    ((memory.publish unit).account? id).isSome := by
  obtain ⟨account, known⟩ := Option.isSome_iff_exists.mp present
  simp [account?_publish, known]

/-- What is needed of a unit for its end to leave a balance alone. -/
theorem balanceOf_publish_unstaged (unstaged : (memory.staged unit).balances id = none)
    (empty : ∀ account ∈ (memory.staged unit).created, account.balance = .zero) :
    (memory.publish unit).balanceOf id = memory.balanceOf id := by
  have kept : ∀ account : Account, account.id = id →
      ((memory.staged unit).overlay account).balance = account.balance := by
    intro account same
    simp [Staged.overlay, same, unstaged]
  simp only [balanceOf, account?_publish]
  cases known : memory.account? id with
  | some account =>
      simp [kept account (id_of_find? known)]
  | none =>
      cases found : (memory.staged unit).created.find? fun account => account.id == id with
      | none => rfl
      | some account =>
          simp [kept account (id_of_find? found), empty account (List.mem_of_find?_eq_some found)]

theorem entries_publish (memory : Memory) (unit : UnitId) :
    (memory.publish unit).entries = memory.entries ++ (memory.staged unit).entries := rfl

end Passbook.Memory
