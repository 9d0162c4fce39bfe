import Mathlib.Data.List.Infix
import Passbook.Text.Split

/-!
Where texts are cut. Nothing that comes after the first place of a mark moves that place, and
nothing that comes before the last place of a mark moves that one.
-/

set_option autoImplicit false

namespace Passbook.Text

variable {mark text before after : List Char} {char : Char}

/-!
## The first place of a mark
-/

theorem splitFirst_sound (cut : splitFirst mark text = some (before, after)) :
    text = before ++ mark ++ after := by
  induction text generalizing before after with
  | nil =>
      rw [splitFirst] at cut
      split at cut
      · next empty =>
          cases cut
          rw [List.isEmpty_iff.mp empty]
          rfl
      · cases cut
  | cons char rest ih =>
      rw [splitFirst] at cut
      split at cut
      · next here =>
          obtain ⟨tail, same⟩ := List.isPrefixOf_iff_prefix.mp here
          cases cut
          rw [← same, List.drop_left, List.nil_append]
      · obtain ⟨⟨front, back⟩, later, same⟩ := Option.map_eq_some_iff.mp cut
        cases same
        rw [ih later, List.cons_append, List.cons_append]

theorem splitFirst_self (mark after : List Char) :
    splitFirst mark (mark ++ after) = some ([], after) := by
  have here : mark.isPrefixOf (mark ++ after) = true :=
    List.isPrefixOf_iff_prefix.mpr (List.prefix_append mark after)
  cases whole : mark ++ after with
  | nil =>
      obtain ⟨rfl, rfl⟩ := List.append_eq_nil_iff.mp whole
      rfl
  | cons char rest =>
      rw [whole] at here
      rw [splitFirst, if_pos here, ← whole, List.drop_left]

/-- What follows the first place of a mark can be exchanged. -/
theorem splitFirst_change (cut : splitFirst mark text = some (before, after)) (other : List Char) :
    splitFirst mark (before ++ mark ++ other) = some (before, other) := by
  induction text generalizing before after with
  | nil =>
      obtain ⟨rfl, -⟩ :=
        List.append_eq_nil_iff.mp (List.append_eq_nil_iff.mp (splitFirst_sound cut).symm).1
      exact splitFirst_self mark other
  | cons char rest ih =>
      have whole := splitFirst_sound cut
      rw [splitFirst] at cut
      split at cut
      · cases cut
        exact splitFirst_self mark other
      · next notHere =>
          obtain ⟨⟨front, back⟩, later, same⟩ := Option.map_eq_some_iff.mp cut
          cases same
          have stillNotHere : ¬ mark.isPrefixOf (char :: (front ++ mark ++ other)) = true := by
            intro here
            apply notHere
            rw [List.isPrefixOf_iff_prefix] at here ⊢
            -- The mark is no longer than the part up to the end of its first place, which both
            -- texts share.
            have shared : mark <+: char :: (front ++ mark) := by
              refine List.prefix_of_prefix_length_le here
                (List.prefix_append (char :: (front ++ mark)) other) ?_
              simp only [List.length_cons, List.length_append]
              omega
            rw [whole]
            exact shared.trans (List.prefix_append _ after)
          rw [List.cons_append, List.cons_append, splitFirst, if_neg stillNotHere, ih later]
          rfl

theorem splitFirst_append (cut : splitFirst mark text = some (before, after)) (more : List Char) :
    splitFirst mark (text ++ more) = some (before, after ++ more) := by
  rw [splitFirst_sound cut, List.append_assoc]
  exact splitFirst_change cut (after ++ more)

/-- If the mark begins nowhere in the front of a text, the front is passed over. -/
theorem splitFirst_later {front more : List Char}
    (later : ∀ tail, tail <:+ front → tail ≠ [] → ¬ mark <+: tail ++ more) :
    splitFirst mark (front ++ more) = (splitFirst mark more).map fun (before, after) =>
      (front ++ before, after) := by
  induction front with
  | nil => simp
  | cons char front ih =>
      have notHere := later (char :: front) (List.suffix_refl _) (List.cons_ne_nil _ _)
      rw [← List.isPrefixOf_iff_prefix, List.cons_append] at notHere
      rw [List.cons_append, splitFirst, if_neg notHere,
        ih fun tail suffix => later tail (suffix.trans (List.suffix_cons char front)),
        Option.map_map]
      rfl

theorem exists_splitFirst (occurs : mark <:+: text) :
    ∃ before after, splitFirst mark text = some (before, after) := by
  induction text with
  | nil =>
      rw [List.infix_nil.mp occurs]
      exact ⟨[], [], rfl⟩
  | cons char rest ih =>
      rw [splitFirst]
      split
      · exact ⟨_, _, rfl⟩
      · next notHere =>
          rcases List.infix_cons_iff.mp occurs with here | later
          · exact absurd (List.isPrefixOf_iff_prefix.mpr here) notHere
          · obtain ⟨before, after, cut⟩ := ih later
            exact ⟨char :: before, after, by rw [cut]; rfl⟩

/-!
## Marks of one character
-/

theorem splitFirst_single_iff :
    splitFirst [char] text = some (before, after) ↔
      text = before ++ char :: after ∧ char ∉ before := by
  induction text generalizing before after with
  | nil => simp [splitFirst]
  | cons first rest ih =>
      rw [splitFirst]
      by_cases here : first = char
      · subst here
        cases before with
        | nil => simp [List.isPrefixOf]
        | cons other before => grind
      · have notHere : ¬ [char].isPrefixOf (first :: rest) = true := by
          simpa [List.isPrefixOf] using fun same => here same.symm
        rw [if_neg notHere, Option.map_eq_some_iff]
        constructor
        · rintro ⟨⟨front, back⟩, later, same⟩
          cases same
          obtain ⟨rfl, absent⟩ := ih.mp later
          exact ⟨rfl, by simpa using ⟨fun same => here same.symm, absent⟩⟩
        · rintro ⟨whole, absent⟩
          cases before with
          | nil => exact absurd (List.cons.inj whole).1 here
          | cons other before =>
              obtain ⟨rfl, rfl⟩ := List.cons.inj whole
              exact ⟨(before, after),
                ih.mpr ⟨rfl, fun member => absent (List.mem_cons_of_mem _ member)⟩, rfl⟩

theorem splitLast_eq_none_iff : splitLast char text = none ↔ char ∉ text := by
  induction text with
  | nil => simp [splitLast]
  | cons first rest ih =>
      rw [splitLast]
      cases later : splitLast char rest with
      | none =>
          have absent := ih.mp later
          by_cases here : first = char <;> grind
      | some parts =>
          have present : char ∈ rest := by
            by_contra absent
            rw [ih.mpr absent] at later
            cases later
          simp [present]

theorem splitLast_eq_some_iff :
    splitLast char text = some (before, after) ↔ text = before ++ char :: after ∧ char ∉ after := by
  induction text generalizing before after with
  | nil => simp [splitLast]
  | cons first rest ih =>
      rw [splitLast]
      cases later : splitLast char rest with
      | none =>
          have absent := splitLast_eq_none_iff.mp later
          cases before with
          | nil => by_cases here : first = char <;> grind
          | cons other before => by_cases here : first = char <;> grind
      | some parts =>
          obtain ⟨front, back⟩ := parts
          obtain ⟨whole, absent⟩ := ih.mp later
          cases before with
          | nil => grind
          | cons other before =>
              have next := @ih before after
              rw [later] at next
              grind

theorem exists_last (present : char ∈ text) :
    ∃ before after, text = before ++ char :: after ∧ char ∉ after := by
  cases last : splitLast char text with
  | none => exact absurd present (splitLast_eq_none_iff.mp last)
  | some parts => exact ⟨parts.1, parts.2, splitLast_eq_some_iff.mp last⟩

end Passbook.Text
