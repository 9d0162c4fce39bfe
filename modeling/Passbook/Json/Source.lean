import Passbook.Json.Fault
import Passbook.Text.Percent

/-!
The text of a JSON document as it is read: spaces, literals and strings. A document may arrive as
bytes; a byte that belongs to no character is a `none` in the source, and is harmless only inside a
string that nobody reads.
-/

set_option autoImplicit false

namespace Passbook.Json

/-- The characters of a document, with `none` for each byte that belongs to no character. -/
abbrev Source := List (Option Char)

def Source.ofChars (text : List Char) : Source := text.map some

/-- Whether a character may stand between the parts of a document. -/
def isSpace (symbol : Option Char) : Bool :=
  symbol == some ' ' || symbol == some '\n' || symbol == some '\t' || symbol == some '\r'

def skipSpaces (source : Source) : Source := source.dropWhile isSpace

def expect (char : Char) (source : Source) : Except Fault Source :=
  match skipSpaces source with
  | some found :: rest => if found = char then .ok rest else .error .malformed
  | _ => .error .malformed

def expectWord : List Char → Source → Except Fault Source
  | [], source => .ok source
  | char :: word, some found :: rest =>
      if found = char then expectWord word rest else .error .malformed
  | _, _ => .error .malformed

def hex4? : (first second third fourth : Option Char) → Option Nat
  | some first, some second, some third, some fourth =>
      match Text.hexValue? first, Text.hexValue? second, Text.hexValue? third,
        Text.hexValue? fourth with
      | some first, some second, some third, some fourth =>
          some (((first * 16 + second) * 16 + third) * 16 + fourth)
      | _, _, _, _ => none
  | _, _, _, _ => none

def escapedChar? : Char → Option Char
  | '"' => some '"'
  | '\\' => some '\\'
  | '/' => some '/'
  | 'b' => some '\x08'
  | 'f' => some '\x0c'
  | 'n' => some '\n'
  | 'r' => some '\r'
  | 't' => some '\t'
  | _ => none

/-- The character that two halves of a numeric escape denote together. -/
def joinedChar (high low : Nat) : Char :=
  Char.ofNat (0x10000 + (high - 0xD800) * 0x400 + (low - 0xDC00))

/-- Reads the content of a string up to the closing quote. A character beyond the first plane takes
two numeric escapes, one after the other; `half` is the first of them. Half of such a pair is
malformed. -/
def readContent :
    (half : Option Nat) → (read : List Char) → Source → Except Fault (List Char × Source)
  | half, read, some '\\' :: some 'u' :: first :: second :: third :: fourth :: rest =>
      match hex4? first second third fourth, half with
      | none, _ => .error .malformed
      | some code, none =>
          if 0xD800 ≤ code ∧ code < 0xDC00 then readContent (some code) read rest
          else if 0xDC00 ≤ code ∧ code < 0xE000 then .error .malformed
          else readContent none (Char.ofNat code :: read) rest
      | some code, some high =>
          if 0xDC00 ≤ code ∧ code < 0xE000 then readContent none (joinedChar high code :: read) rest
          else .error .malformed
  | some _, _, _ => .error .malformed
  | none, read, some '"' :: rest => .ok (read.reverse, rest)
  | none, read, some '\\' :: some letter :: rest =>
      match escapedChar? letter with
      | some char => readContent none (char :: read) rest
      | none => .error .malformed
  | none, read, some char :: rest =>
      if char = '\\' ∨ char.toNat < 0x20 then .error .malformed
      else readContent none (char :: read) rest
  | none, _, _ => .error .malformed

def readString (source : Source) : Except Fault (List Char × Source) := readContent none [] source

/-- Skips a string after its opening quote. Numeric escapes need not denote characters, and bytes
need not belong to characters. -/
def skipString : Source → Except Fault Source
  | some '"' :: rest => .ok rest
  | some '\\' :: some 'u' :: first :: second :: third :: fourth :: rest =>
      if (hex4? first second third fourth).isSome then skipString rest else .error .malformed
  | some '\\' :: some letter :: rest =>
      if (escapedChar? letter).isSome then skipString rest else .error .malformed
  | some char :: rest =>
      if char = '\\' ∨ char.toNat < 0x20 then .error .malformed else skipString rest
  | none :: rest => skipString rest
  | [] => .error .malformed

end Passbook.Json
