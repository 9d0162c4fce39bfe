import Passbook.Proofs.Memory.Integrity
import Passbook.Proofs.Memory.View

/-!
Why store calls fail, as far as the names of accounts are concerned. An opening fails for an ordered
failure or for its deadline, an insertion for a name that is taken, and a commit for an ordered
failure or for a name that has been taken in the meantime.
-/

set_option autoImplicit false

namespace Passbook.Memory

variable {memory : Memory} {unit : UnitId} {error : StoreError} {account : Account}
  {registration : Registration} {world left : World Memory}

/-- Whether an account of that name is committed. -/
def HasName (memory : Memory) (username : String) : Prop :=
  ∃ account ∈ memory.accounts, account.username = username

/-- Whether an error comes of an ordered failure or of a deadline. -/
def Stops (error : StoreError) : Prop :=
  (∃ point, error = injected point) ∨ error.fault = .lockTimeout

/-- Whether an error says that a name under which a unit has created an account has been committed
by another. -/
def Clashes (memory : Memory) (unit : UnitId) (error : StoreError) : Prop :=
  error.fault = .conflict ∧ ∃ account ∈ (memory.staged unit).created,
    memory.HasName account.username

theorem not_stops_of_conflict (conflict : error.fault = .conflict) : ¬ Stops error := by
  rintro (⟨point, rfl⟩ | late)
  · cases point <;> cases conflict
  · cases conflict.symm.trans late

private theorem stops_of_tryOpen {progress : Progress}
    (tried : (tryOpen progress world).1 = .ready (.error error)) :
    Stops error := by
  have entering := enter_entering .opening progress world
  unfold tryOpen afterEntering at tried
  generalize enter .opening progress world = entered at entering tried
  obtain ⟨entrance, entered⟩ := entered
  cases entering with
  | sleeps wakeAt rearmed => cases tried
  | passes rearmed => cases tried
  | fails rearmed =>
      cases tried
      exact .inl ⟨_, rfl⟩

theorem stops_of_tryOpenBy {deadline : Deadline} {progress : Progress}
    (tried : (store.tryOpenBy deadline progress world).1 = .ready (.error error)) :
    Stops error := by
  unfold LedgerStore.tryOpenBy at tried
  rcases answer : store.tryOpen progress world with ⟨later | failure | opened, after⟩ <;>
    rw [answer] at tried
  · dsimp only at tried
    split at tried
    · cases tried
      exact .inr rfl
    · cases tried
  · cases tried
    exact stops_of_tryOpen (congrArg Prod.fst answer)
  · cases tried

theorem clash?_ne_none (clash : memory.clash? unit ≠ none) :
    ∃ account ∈ (memory.staged unit).created, memory.HasName account.username := by
  obtain ⟨account, found⟩ := Option.ne_none_iff_exists'.mp clash
  have shared : memory.accounts.any (fun committed => committed.username == account.username) =
      true := by
    have satisfied := List.find?_some found
    exact satisfied
  obtain ⟨committed, member, same⟩ := List.any_eq_true.mp shared
  exact ⟨account, List.mem_of_find?_eq_some found, committed, member, beq_iff_eq.mp same⟩

theorem not_hasName_of_free (free : memory.clash? unit = none)
    (created : account ∈ (memory.staged unit).created) :
    ¬ memory.HasName account.username := by
  rintro ⟨committed, member, same⟩
  exact List.find?_eq_none.mp free account created
    (List.any_eq_true.mpr ⟨committed, member, beq_iff_eq.mpr same⟩)

theorem tryCommit_refuses {progress : Progress}
    (tried : (tryCommit unit progress world).1 = .ready (.error error)) :
    Stops error ∨ Clashes world.store unit error := by
  have entering := enter_entering .commit progress world
  unfold tryCommit at tried
  generalize enter .commit progress world = entered at entering tried
  obtain ⟨entrance, now, cancelled, before, events⟩ := entered
  cases entering with
  | sleeps wakeAt rearmed => cases tried
  | fails rearmed =>
      cases tried
      exact .inl (.inl ⟨_, rfl⟩)
  | passes rearmed =>
      obtain ⟨faults, delays, rfl⟩ := rearmed
      dsimp only at tried
      split at tried
      · next account clash =>
          cases tried
          have clashes := clash?_ne_none (ne_of_eq_of_ne clash (Option.some_ne_none account))
          exact .inr ⟨rfl, clashes⟩
      · cases tried

/-!
## Insertions by a unit that has staged nothing
-/

theorem isTaken_of_blank (blank : memory.units unit = some .empty) {username : String} :
    memory.isTaken unit username = true ↔ memory.HasName username := by
  simp only [isTaken, idOfName?, staged_of_units blank, Staged.empty, List.find?_nil, HasName]
  simp

theorem tryInsert_refuses (blank : world.store.units unit = some .empty)
    (tried : (tryInsert unit registration world).1 = .ready (.error error)) :
    error.fault = .conflict ∧ world.store.HasName registration.username := by
  unfold tryInsert at tried
  split at tried
  · next taken =>
      cases tried
      exact ⟨rfl, (isTaken_of_blank blank).mp taken⟩
  · cases tried

theorem tryInsert_creates (blank : world.store.units unit = some .empty)
    (tried : tryInsert unit registration world = (.ready (.ok account), left)) :
    account = registration.account account.id ∧
      left.store.staged unit = { Staged.empty with created := [account] } := by
  have inserting := tryInsert_inserting unit registration world
  rw [tried] at inserting
  generalize left.store = after at inserting
  cases inserting with
  | inserts free =>
      refine ⟨rfl, ?_⟩
      rw [staged_create, staged_of_units blank]
      rfl

/-!
## Finding a committed account
-/

theorem mem_publish (member : account ∈ (memory.staged unit).created)
    (unstaged : (memory.staged unit).balances account.id = none) :
    account ∈ (memory.publish unit).accounts := by
  refine List.mem_map.mpr ⟨account, List.mem_append_right _ member, ?_⟩
  rw [Staged.overlay, unstaged]
  rfl

/-- A unit that has staged nothing finds a committed account under its name. -/
theorem named_of_blank (account : Account) (intact : memory.Intact)
    (blank : memory.units unit = some .empty) (known : memory.account? account.id = some account) :
    (memory.idOfName? unit account.username).bind (memory.view unit) = some account := by
  have member : account ∈ memory.accounts := List.mem_of_find?_eq_some known
  have found : (memory.accounts.find? fun other => other.username == account.username) =
      some account := by
    cases search : memory.accounts.find? fun other => other.username == account.username with
    | none => exact absurd (beq_self_eq_true _) (List.find?_eq_none.mp search account member)
    | some other =>
        have same : other.username = account.username := by simpa using List.find?_some search
        have unique := List.inj_on_of_nodup_map intact.accounts.nodup
        exact congrArg some (unique (List.mem_of_find?_eq_some search) member same)
  have number : memory.idOfName? unit account.username = some account.id := by
    simp only [idOfName?, staged_of_units blank, Staged.empty, List.find?_nil, found]
    rfl
  rw [number, Option.bind_some, view_of_empty blank, known]

end Passbook.Memory
