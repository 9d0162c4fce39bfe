/-!
White space of all scripts, and trimming by it. Zero-width characters are not white space.
-/

set_option autoImplicit false

namespace Passbook.Text

/-- Whether a character has the `White_Space` property. -/
def isBlank (char : Char) : Bool :=
  let code := char.toNat
  (9 ≤ code && code ≤ 13) || code == 0x20 || code == 0x85 || code == 0xA0 || code == 0x1680 ||
    (0x2000 ≤ code && code ≤ 0x200A) || code == 0x2028 || code == 0x2029 || code == 0x202F ||
    code == 0x205F || code == 0x3000

def trimStart (text : List Char) : List Char := text.dropWhile isBlank

def trimEnd (text : List Char) : List Char := (text.reverse.dropWhile isBlank).reverse

def trim (text : List Char) : List Char := trimEnd (trimStart text)

theorem trimStart_cons_of_not_blank {char : Char} {rest : List Char}
    (solid : isBlank char = false) : trimStart (char :: rest) = char :: rest := by
  simp only [trimStart, List.dropWhile_cons, solid, Bool.false_eq_true, if_false]

/-- What is left of a text without leading white space starts with a solid character. -/
theorem isBlank_head_trimStart {text : List Char} {char : Char} {rest : List Char}
    (left : trimStart text = char :: rest) : isBlank char = false := by
  induction text with
  | nil => cases left
  | cons first text ih =>
      by_cases blank : isBlank first = true
      · refine ih ?_
        rw [← left]
        simp only [trimStart, List.dropWhile_cons, blank, if_true]
      · have solid : isBlank first = false := Bool.not_eq_true _ ▸ blank
        rw [trimStart_cons_of_not_blank solid] at left
        cases left
        exact solid

theorem trimStart_trimStart (text : List Char) : trimStart (trimStart text) = trimStart text := by
  cases left : trimStart text with
  | nil => rfl
  | cons char rest => exact trimStart_cons_of_not_blank (isBlank_head_trimStart left)

theorem trimEnd_trimEnd (text : List Char) : trimEnd (trimEnd text) = trimEnd text := by
  have once := trimStart_trimStart text.reverse
  simp only [trimStart] at once
  simp only [trimEnd, List.reverse_reverse, once]

theorem trimEnd_append_dropped (text : List Char) :
    ∃ dropped, text = trimEnd text ++ dropped := by
  refine ⟨(text.reverse.takeWhile isBlank).reverse, ?_⟩
  rw [trimEnd, ← List.reverse_append, List.takeWhile_append_dropWhile, List.reverse_reverse]

theorem trimStart_trim (text : List Char) : trimStart (trim text) = trim text := by
  cases left : trim text with
  | nil => rfl
  | cons char rest =>
      obtain ⟨dropped, whole⟩ := trimEnd_append_dropped (trimStart text)
      rw [show trimEnd (trimStart text) = char :: rest from left, List.cons_append] at whole
      exact trimStart_cons_of_not_blank (isBlank_head_trimStart whole)

theorem trim_trim (text : List Char) : trim (trim text) = trim text := by
  rw [trim, trimStart_trim, trim, trimEnd_trimEnd]

end Passbook.Text
