import Passbook.Memory.Store
import Passbook.Proofs.Memory.Numbering
import Passbook.Proofs.Memory.Published

/-!
What a unit of work sees: the committed ledger under what the unit has staged itself. The view of a
unit depends on nothing else, so whatever others do without publishing is not seen.
-/

set_option autoImplicit false

namespace Passbook

/-- Whether a request only reads. A request for a row reads as well, but it also holds the row. -/
def Request.isRead : Request → Bool
  | .find _ => true
  | .findName _ => true
  | .list _ => true
  | _ => false

namespace Memory

variable {memory after : Memory} {unit other : UnitId} {id : AccountId}

/-- Whether a unit sees the same as another one saw before. -/
structure SameView (memory : Memory) (unit : UnitId) (after : Memory) (other : UnitId) : Prop where
  accounts : ∀ id, after.view other id = memory.view unit id
  names : ∀ username, after.idOfName? other username = memory.idOfName? unit username
  entries : ∀ id, after.history other id = memory.history unit id

/-- Whether a unit gets the same answers from all reads as another one got before. -/
def SameReads (before : World Memory) (unit : UnitId) (after : World Memory)
    (other : UnitId) : Prop :=
  ∀ request, request.isRead = true → ∀ progress another,
    (store.tryAsk other request another after).1 = (store.tryAsk unit request progress before).1

theorem tryAsk_find (unit : UnitId) (id : AccountId) (progress : Progress) (world : World Memory) :
    store.tryAsk unit (.find id) progress world =
      (.ready (.ok (world.store.view unit id)), world) :=
  rfl

theorem tryAsk_findName (unit : UnitId) (username : String) (progress : Progress)
    (world : World Memory) :
    store.tryAsk unit (.findName username) progress world =
      (.ready (.ok ((world.store.idOfName? unit username).bind (world.store.view unit))), world) :=
  rfl

theorem tryAsk_list (unit : UnitId) (id : AccountId) (progress : Progress) (world : World Memory) :
    store.tryAsk unit (.list id) progress world =
      (.ready (.ok (world.store.history unit id)), world) :=
  rfl

theorem SameView.reads {before after : World Memory}
    (same : SameView before.store unit after.store other) :
    SameReads before unit after other := by
  intro request isRead progress another
  cases request with
  | find id => rw [tryAsk_find, tryAsk_find, same.accounts]
  | findName username => rw [tryAsk_findName, tryAsk_findName, same.names, funext same.accounts]
  | list id => rw [tryAsk_list, tryAsk_list, same.entries]
  | lock id deadline => cases isRead
  | insert registration => cases isRead
  | setBalance id balance => cases isRead
  | append draft => cases isRead

/-- A view depends on the committed ledger and on what the unit has staged. -/
theorem sameView_of_staged (tables : after.tables = memory.tables)
    (staged : after.staged other = memory.staged unit) :
    SameView memory unit after other := by
  have accounts : after.accounts = memory.accounts := congrArg Prod.fst tables
  have entries : after.entries = memory.entries := congrArg Prod.snd tables
  refine ⟨fun id => ?_, fun username => ?_, fun id => ?_⟩
  · simp only [view, staged, account?_congr accounts]
  · simp only [idOfName?, staged, accounts]
  · simp only [history, staged, entries]

theorem sameView_of_units (tables : after.tables = memory.tables)
    (units : after.units unit = memory.units unit) :
    SameView memory unit after unit :=
  sameView_of_staged tables (staged_congr units)

theorem staged_openUnit (unopened : memory.units ⟨memory.lastUnit + 1⟩ = none) (unit : UnitId) :
    memory.openUnit.2.staged unit = memory.staged unit := by
  by_cases new : unit = ⟨memory.lastUnit + 1⟩
  · subst unit
    simp [openUnit, staged, unopened]
  · simp [openUnit, staged, assign_other, new]

/-!
## Publication
-/

private theorem or_comm_of_apart {α : Type} {one two : Option α} (apart : one = none ∨ two = none) :
    (one <|> two) = (two <|> one) := by
  rcases apart with rfl | rfl
  · cases two <;> rfl
  · cases one <;> rfl

theorem accountNumber_of_committed {account : Account}
    (committed : memory.account? id = some account) :
    id.value ∈ memory.accountNumbers none := by
  rw [← id_of_find? committed]
  exact List.mem_map_of_mem (List.mem_of_find?_eq_some committed)

theorem accountNumber_of_created {account : Account}
    (created : ((memory.staged unit).created.find? fun account => account.id == id) =
      some account) :
    id.value ∈ memory.accountNumbers (some unit) := by
  rw [← id_of_find? created]
  exact List.mem_map_of_mem (List.mem_of_find?_eq_some created)

/-- An account that a unit has created is not among the committed ones. -/
theorem Sound.uncommitted (sound : Sound memory) (unit : UnitId) (id : AccountId) :
    memory.account? id = none ∨
      ((memory.staged unit).created.find? fun account => account.id == id) = none := by
  cases committed : memory.account? id with
  | none => exact .inl rfl
  | some account =>
      cases created : (memory.staged unit).created.find? fun account => account.id == id with
      | none => exact .inr rfl
      | some twin =>
          cases sound.accounts.apart none (some unit) _ (accountNumber_of_committed committed)
            (accountNumber_of_created created)

private theorem unnamed_of_free (free : memory.clash? unit = none) (username : String) :
    (memory.accounts.find? fun account => account.username == username) = none ∨
      ((memory.staged unit).created.find? fun account => account.username == username) = none := by
  cases found : (memory.staged unit).created.find? fun account => account.username == username with
  | none => exact .inr rfl
  | some account =>
      refine .inl (List.find?_eq_none.mpr fun committed member => ?_)
      have named : account.username = username := by simpa using List.find?_some found
      have unclashed := List.find?_eq_none.mp free account (List.mem_of_find?_eq_some found)
      intro same
      exact unclashed (List.any_eq_true.mpr ⟨committed, member, by rw [named]; exact same⟩)

/-- After a commit, a unit that has staged nothing sees what the unit that committed saw before. -/
theorem sameView_publish (sound : Sound memory) (free : memory.clash? unit = none)
    (published : after.tables = (memory.publish unit).tables)
    (empty : after.staged other = .empty) :
    SameView memory unit after other := by
  have accounts : after.accounts = (memory.publish unit).accounts := congrArg Prod.fst published
  have entries : after.entries = (memory.publish unit).entries := congrArg Prod.snd published
  have plain : Staged.overlay .empty = fun account => account := rfl
  refine ⟨fun id => ?_, fun username => ?_, fun id => ?_⟩
  · have committed : after.view other id = after.account? id := by
      simp only [view, empty, plain]
      simp [Staged.empty]
    rw [committed, account?_congr accounts, account?_publish,
      or_comm_of_apart (sound.uncommitted unit id)]
    rfl
  · have blind : (fun account : Account => account.username == username) ∘
      (memory.staged unit).overlay =
        fun account => account.username == username := rfl
    have kept : Account.id ∘ (memory.staged unit).overlay = Account.id := rfl
    rw [idOfName?, idOfName?, empty, accounts, ← or_comm_of_apart (unnamed_of_free free username)]
    simp only [Staged.empty, List.find?_nil, publish, discard, List.find?_map, List.find?_append,
      blind, Option.orElse_eq_orElse, Option.orElse_eq_or, Option.none_or, Option.map_map, kept]
  · simp only [history, empty, entries, entries_publish]
    simp [Staged.empty]

end Memory

end Passbook
