/-!
Tables as functions: `assign` changes the value of one key and no other.
-/

set_option autoImplicit false

namespace Passbook

/-- The table with a new value under one key. -/
def assign {κ α : Type} [DecidableEq κ] (table : κ → α) (key : κ) (value : α) : κ → α :=
  fun other => if other = key then value else table other

@[simp] theorem assign_same {κ α : Type} [DecidableEq κ] (table : κ → α) (key : κ) (value : α) :
    assign table key value key = value := by
  simp only [assign, if_true]

theorem assign_other {κ α : Type} [DecidableEq κ] (table : κ → α) {key other : κ} (value : α)
    (different : other ≠ key) : assign table key value other = table other := by
  simp only [assign, if_neg different]

theorem assign_own {κ α : Type} [DecidableEq κ] (table : κ → α) (key : κ) :
    assign table key (table key) = table := by
  funext other
  by_cases same : other = key
  · rw [same, assign_same]
  · exact assign_other _ _ same

theorem assign_again {κ α : Type} [DecidableEq κ] (table : κ → α) (key : κ) (first second : α) :
    assign (assign table key first) key second = assign table key second := by
  funext other
  by_cases same : other = key
  · rw [same, assign_same, assign_same]
  · rw [assign_other _ _ same, assign_other _ _ same, assign_other _ _ same]

theorem assign_comm {κ α : Type} [DecidableEq κ] {table : κ → α} {one other : κ}
    (different : one ≠ other) (first second : α) :
    assign (assign table one first) other second =
      assign (assign table other second) one first := by
  funext key
  by_cases isOne : key = one
  · rw [isOne, assign_other _ _ different, assign_same, assign_same]
  · rw [assign_other _ _ isOne]
    by_cases isOther : key = other
    · rw [isOther, assign_same, assign_same]
    · rw [assign_other _ _ isOther, assign_other _ _ isOther, assign_other _ _ isOne]

end Passbook
