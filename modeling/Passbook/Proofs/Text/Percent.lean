import Mathlib.Data.List.Infix
import Passbook.Text.Percent
import Passbook.Text.Utf8

/-!
Texts that percent decoding leaves as they are. These are the texts without escapes; any escape
makes the decoded text shorter.
-/

set_option autoImplicit false

namespace Passbook.Text

variable {text front back : List Char} {char high low : Char}

/-- Whether a text holds a percent sign that is followed by two hexadecimal digits. -/
def HasEscape (text : List Char) : Prop :=
  ∃ high low, ['%', high, low] <:+: text ∧ (hexValue? high).isSome = true ∧
    (hexValue? low).isSome = true

theorem length_toUtf8_append (front back : List Char) :
    (toUtf8 (front ++ back)).length = (toUtf8 front).length + (toUtf8 back).length := by
  rw [toUtf8, List.flatMap_append, List.length_append]
  rfl

theorem toUtf8_char (char : Char) (text : List Char) :
    toUtf8 (char :: text) = String.utf8EncodeChar char ++ toUtf8 text := rfl

theorem length_toUtf8_pos (char : Char) (text : List Char) :
    0 < (toUtf8 (char :: text)).length := by
  rw [toUtf8_char, List.length_append, String.length_utf8EncodeChar]
  exact Nat.add_pos_left char.utf8Size_pos _

theorem not_hasEscape_nil : ¬ HasEscape [] := by
  rintro ⟨high, low, inside, -⟩
  cases List.infix_nil.mp inside

theorem hasEscape_cons_iff : HasEscape (char :: text) ↔
    (∃ high low rest, char = '%' ∧ text = high :: low :: rest ∧ (hexValue? high).isSome = true ∧
      (hexValue? low).isSome = true) ∨
      HasEscape text := by
  constructor
  · rintro ⟨high, low, inside, highHex, lowHex⟩
    rcases List.infix_cons_iff.mp inside with here | later
    · obtain ⟨rest, whole⟩ := here
      obtain ⟨rfl, rfl⟩ := List.cons.inj whole
      exact .inl ⟨high, low, rest, rfl, rfl, highHex, lowHex⟩
    · exact .inr ⟨high, low, later, highHex, lowHex⟩
  · rintro (⟨high, low, rest, rfl, rfl, highHex, lowHex⟩ | ⟨high, low, later, highHex, lowHex⟩)
    · exact ⟨high, low, ⟨[], rest, rfl⟩, highHex, lowHex⟩
    · exact ⟨high, low, later.trans (List.suffix_cons char text).isInfix, highHex, lowHex⟩

/-- How bytes relate to a text that they are decoded from: they are its own, or an escape has made
them fewer. -/
def Decoded (text : List Char) (bytes : List UInt8) : Prop :=
  (¬ HasEscape text ∧ bytes = toUtf8 text) ∨ (HasEscape text ∧ bytes.length < (toUtf8 text).length)

theorem Decoded.length_le {bytes : List UInt8} (decoded : Decoded text bytes) :
    bytes.length ≤ (toUtf8 text).length := by
  rcases decoded with ⟨-, rfl⟩ | ⟨-, fewer⟩
  · exact Nat.le_refl _
  · exact Nat.le_of_lt fewer

theorem Decoded.cons {bytes : List UInt8} (decoded : Decoded text bytes)
    (begins : ∀ high low rest, char = '%' → text = high :: low :: rest → hexValue? high = none ∨
      hexValue? low = none) :
    Decoded (char :: text) (String.utf8EncodeChar char ++ bytes) := by
  rcases decoded with ⟨plain, rfl⟩ | ⟨escaped, fewer⟩
  · refine .inl ⟨fun escaped => ?_, rfl⟩
    rcases hasEscape_cons_iff.mp escaped
      with ⟨high, low, rest, percent, whole, highHex, lowHex⟩ | later
    · rcases begins high low rest percent whole with noHex | noHex
      · rw [noHex] at highHex
        cases highHex
      · rw [noHex] at lowHex
        cases lowHex
    · exact plain later
  · refine .inr ⟨hasEscape_cons_iff.mpr (.inr escaped), ?_⟩
    rw [toUtf8_char, List.length_append, List.length_append]
    omega

theorem decoded_percentDecoded (text : List Char) : Decoded text (percentDecoded text) := by
  fun_induction percentDecoded text with
  | case1 high low rest highValue lowValue lowHex highHex ih =>
      refine .inr ⟨hasEscape_cons_iff.mpr
        (.inl ⟨high, low, rest, rfl, rfl, highHex ▸ rfl, lowHex ▸ rfl⟩), ?_⟩
      have fewer := ih.length_le
      have highSize := high.utf8Size_pos
      have lowSize := low.utf8Size_pos
      simp only [toUtf8_char, List.length_cons, List.length_append, String.length_utf8EncodeChar]
      omega
  | case2 high low rest notHex ih =>
      -- A percent sign that is no escape is kept, although two characters follow it.
      refine ih.cons fun _ _ _ _ whole => ?_
      cases whole
      cases highHex : hexValue? high with
      | none => exact .inl rfl
      | some highValue =>
          cases lowHex : hexValue? low with
          | none => exact .inr rfl
          | some lowValue => exact (notHex highValue lowValue highHex lowHex).elim
  | case3 char rest other ih =>
      exact ih.cons fun high low more percent whole => (other high low more percent whole).elim
  | case4 => exact .inl ⟨not_hasEscape_nil, rfl⟩

/-- Decoding keeps exactly the texts without escapes. -/
theorem percentDecoded_eq_iff : percentDecoded text = toUtf8 text ↔ ¬ HasEscape text := by
  rcases decoded_percentDecoded text with ⟨plain, same⟩ | ⟨escaped, fewer⟩
  · exact iff_of_true same plain
  · refine iff_of_false (fun same => ?_) (not_not_intro escaped)
    rw [same] at fewer
    exact Nat.lt_irrefl _ fewer

end Passbook.Text
