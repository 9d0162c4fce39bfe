import Passbook.Text.Composition
import Passbook.Text.Direction
import Passbook.Text.Folding
import Passbook.Text.Hidden
import Passbook.Text.Joining
import Passbook.Text.Punycode
import Passbook.Text.Split

/-!
Domain names in all scripts. Characters are folded and invisible ones dropped before the name is cut
into labels; a label must then hold nothing that could be mistaken for something else. A label that
begins with `xn--` is the Punycode of such a label.
-/

set_option autoImplicit false

namespace Passbook.Database.Domain

open Text (Direction)

/-- First and last code points of the ranges of characters that count for nothing in a name, in
turn. -/
def ignoredBounds : Array Nat := #[
  0xAD, 0xAD, 0x34F, 0x34F, 0x115F, 0x1160, 0x17B4, 0x17B5, 0x180B, 0x180F, 0x200B,
    0x200B, 0x2060, 0x2064,
  0x3164, 0x3164, 0xFE00, 0xFE0F, 0xFEFF, 0xFEFF, 0xFFA0, 0xFFA0, 0x1BCA0,
    0x1BCA3, 0xE0100, 0xE01EF]

/-- First and last code points of the ranges of printable characters that no name may hold, in turn:
those that stand for a mark of addresses, a blank or a full stop within other text, and signs that
only describe characters. -/
def refusedBounds : Array Nat := #[
  0xA8, 0xA8, 0xAF, 0xAF, 0xB4, 0xB4, 0xB8, 0xB8, 0x2D8, 0x2DD, 0x37A, 0x37A, 0x384,
    0x385, 0x1FBD, 0x1FBD,
  0x1FBF, 0x1FC1, 0x1FCD, 0x1FCF, 0x1FDD, 0x1FDF, 0x1FED, 0x1FEE, 0x1FFD, 0x1FFE,
    0x2017, 0x2017, 0x2024,
  0x2026, 0x203E, 0x203E, 0x2047, 0x2049, 0x2100, 0x2101, 0x2105, 0x2106, 0x2488,
    0x249B, 0x2A74, 0x2A74,
  0x2FF0, 0x2FFF, 0x309B, 0x309C, 0x31EF, 0x31EF, 0x33C2, 0x33C2, 0x33C7, 0x33C7,
    0x33D8, 0x33D8, 0xFC5E,
  0xFC63, 0xFDFA, 0xFDFB, 0xFE12, 0xFE13, 0xFE16, 0xFE16, 0xFE19, 0xFE19, 0xFE30,
    0xFE30, 0xFE47, 0xFE4C,
  0xFE52, 0xFE52, 0xFE55, 0xFE56, 0xFE5F, 0xFE5F, 0xFE64, 0xFE65, 0xFE68, 0xFE68,
    0xFE6A, 0xFE6B, 0xFE70,
  0xFE70, 0xFE72, 0xFE72, 0xFE74, 0xFE74, 0xFE76, 0xFE76, 0xFE78, 0xFE78, 0xFE7A,
    0xFE7A, 0xFE7C, 0xFE7C,
  0xFE7E, 0xFE7E, 0xFF03, 0xFF03, 0xFF05, 0xFF05, 0xFF0F, 0xFF0F, 0xFF1A, 0xFF1A,
    0xFF1C, 0xFF1C, 0xFF1E,
  0xFF20, 0xFF3B, 0xFF3E, 0xFF5C, 0xFF5C, 0xFFE3, 0xFFE3, 0xFFFC, 0xFFFD, 0x1F100, 0x1F100]

/-- Whether a character counts for nothing. -/
def isIgnored (char : Char) : Bool := Text.inRanges ignoredBounds char

/-- Whether no name may hold a character. -/
def isRefused (char : Char) : Bool :=
  if char.toNat < 0x80 then
    char.toNat ≤ 0x20 || char.toNat = 0x7F || "#%/:<>?@[\\]^|".toList.contains char
  else
    char != Text.joiner && char != Text.divider && !isIgnored char &&
      (Text.isUnprintable char || Text.inRanges refusedBounds char)

inductive Label
  | plain (text : List Char)
  /-- A label that is not written in ASCII alone. -/
  | international (text : List Char)

def Label.text : Label → List Char
  | plain text => text
  | international text => text

def punycodeMark : List Char := ['x', 'n', '-', '-']

def maxPunycodeLength : Nat := 2000

/-- The most characters of a label that is not written in ASCII alone. -/
def maxInternationalLength : Nat := 1000

/-- Whether a character is a mark or stands for one, as the voice marks of narrow Katakana do. -/
def standsForMark (char : Char) : Bool := Text.isMark char || char == '\uff9e' || char == '\uff9f'

/-- Whether characters beyond ASCII can be a label: they are not too many, do not begin with a mark,
and joiners and dividers have an effect. -/
def isInternational (text : List Char) : Bool :=
  text.length ≤ maxInternationalLength && !text.head?.any standsForMark &&
    Text.hasOnlyEffectiveJoiners [] text

/-- Whether a character of decoded Punycode is one that folding leaves alone. -/
def isSettled (char : Char) : Bool :=
  !isRefused char && !isIgnored char && !Text.isFolded char && char != '.'

def label? (text : List Char) : Option Label :=
  if text.all fun char => char.toNat < 0x80 then
    match text with
    | 'x' :: 'n' :: '-' :: '-' :: code =>
        if code = [] ∨ code.getLast? = some '-' ∨ maxPunycodeLength < code.length then none
        else
          match Text.Punycode.decode? code with
          | some decoded =>
              if decoded.all isSettled && Text.isComposed decoded && isInternational decoded then
                some (.international decoded)
              else none
          | none => none
    | text => some (.plain text)
  else if punycodeMark.isPrefixOf text || !isInternational text then none
  else some (.international text)

/-- Whether a label does not mix directions in a way that makes its order unclear. -/
def hasClearOrder (text : List Char) : Bool :=
  let directions := text.map Direction.of
  let last := (directions.reverse.dropWhile (· == .mark)).head?
  match directions.head? with
  | none => true
  | some .leftward =>
      !directions.contains .rightward &&
        !(directions.contains .europeanNumber && directions.contains .arabicNumber) &&
        (last == some .leftward || last == some .europeanNumber || last == some .arabicNumber)
  | some .rightward =>
      !directions.contains .leftward && !directions.contains .arabicNumber &&
        (last == some .rightward || last == some .europeanNumber)
  | some _ => false

/-- Whether a label holds characters that are written to the left. -/
def runsLeft (text : List Char) : Bool :=
  text.any fun char => Direction.of char == .leftward || Direction.of char == .arabicNumber

/-- Removes a stroke through a sign of comparison that follows it, and that sign: the two are one
character, unlike the sign alone. -/
def withoutStruckSigns : List Char → List Char
  | sign :: stroke :: rest =>
      if (sign = '<' ∨ sign = '>') ∧ stroke = '\u0338' then '\u226e' :: withoutStruckSigns rest
      else sign :: withoutStruckSigns (stroke :: rest)
  | text => text

/-- The name with characters folded and without those that count for nothing. -/
def folded (name : List Char) : List Char :=
  withoutStruckSigns ((name.filter (!isIgnored ·)).flatMap Text.folded)

/-- The labels of a name; none if it is no domain name. -/
def labels? (name : List Char) : Option (List Label) := do
  let name := folded name
  if name.any isRefused then none
  let labels ← (Text.splitAll '.' name).mapM label?
  let texts := labels.map Label.text
  if texts.any runsLeft && !texts.all hasClearOrder then none else some labels

/-- The name as it is looked up, with a mark in the place of each label that is not written in
ASCII. -/
def outline (labels : List Label) : List Char :=
  ['.'].intercalate (labels.map fun
    | .plain text => text
    | .international _ => punycodeMark)

end Passbook.Database.Domain
