/-!
Cutting text in two at the first or last place where a mark stands. The mark itself belongs to
neither part.
-/

set_option autoImplicit false

namespace Passbook.Text

def splitFirst (mark : List Char) : List Char → Option (List Char × List Char)
  | [] => if mark.isEmpty then some ([], []) else none
  | char :: rest =>
      if mark.isPrefixOf (char :: rest) then some ([], (char :: rest).drop mark.length)
      else (splitFirst mark rest).map fun (before, after) => (char :: before, after)

def splitLast (mark : Char) : List Char → Option (List Char × List Char)
  | [] => none
  | char :: rest =>
      match splitLast mark rest with
      | some (before, after) => some (char :: before, after)
      | none => if char = mark then some ([], rest) else none

def splitAll (separator : Char) (text : List Char) : List (List Char) :=
  match splitFirst [separator] text with
  | some (part, rest) =>
      if rest.length < text.length then part :: splitAll separator rest else [text]
  | none => [text]
termination_by text.length

end Passbook.Text
