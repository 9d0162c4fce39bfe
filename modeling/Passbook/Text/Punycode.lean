import Passbook.Text.Integer

/-!
Punycode, which writes a text in letters and digits of ASCII. The ASCII characters of the text come
first; a number system with digits `a` to `z` and `0` to `9` then says which character is to be
inserted where. The width of its numbers follows those read before.
-/

set_option autoImplicit false

namespace Passbook.Text.Punycode

def digit? (char : Char) : Option Nat :=
  if 'a' ≤ char ∧ char ≤ 'z' then some (char.toNat - 'a'.toNat)
  else if char.isDigit then some (char.toNat - '0'.toNat + 26)
  else none

/-- The threshold of a digit at a place that is counted in steps of thirty-six. -/
def threshold (place bias : Nat) : Nat := max 1 (min 26 (place - bias))

/-- How often a difference is divided until it is small, and what is left. -/
def scaledDown (difference : Nat) : Nat × Nat :=
  if _large : 455 < difference then
    let (times, rest) := scaledDown (difference / 35)
    (times + 1, rest)
  else (0, difference)
termination_by difference

def adapted (difference count : Nat) (isFirst : Bool) : Nat :=
  let damped := if isFirst then difference / 700 else difference / 2
  let (times, rest) := scaledDown (damped + damped / count)
  36 * times + 36 * rest / (rest + 38)

/-- A text that is being decoded. Between numbers `place` is thirty-six. -/
structure Decoder where
  decoded : List Char
  code : Nat
  position : Nat
  bias : Nat
  start : Nat
  weight : Nat
  place : Nat

def Decoder.begin (plain : List Char) : Decoder := ⟨plain, 0x80, 0, 72, 0, 1, 36⟩

/-- Inserts the character that a complete number denotes; none if there is no such character. -/
def Decoder.inserted (decoder : Decoder) : Option Decoder :=
  let count := decoder.decoded.length + 1
  let code := decoder.code + decoder.position / count
  let position := decoder.position % count
  let char := Char.ofNat code
  if char.toNat = code then
    some {
      decoded := decoder.decoded.take position ++ char :: decoder.decoded.drop position
      code
      position := position + 1
      bias := adapted (decoder.position - decoder.start) count (decoder.start == 0)
      start := position + 1
      weight := 1
      place := 36 }
  else none

def Decoder.step (decoder : Decoder) (char : Char) : Option Decoder := do
  let digit ← digit? char
  let decoder := { decoder with position := decoder.position + digit * decoder.weight }
  let threshold := threshold decoder.place decoder.bias
  if twoTo 32 ≤ decoder.position then none
  else if digit < threshold then decoder.inserted
  else
    let weight := decoder.weight * (36 - threshold)
    if twoTo 32 ≤ weight then none else some { decoder with weight, place := decoder.place + 36 }

/-- Decodes a text without capital letters. Nothing may be left of a number that has begun. -/
def decode? (text : List Char) : Option (List Char) := do
  let digits := (text.reverse.takeWhile (· != '-')).reverse
  let plain := text.take (text.length - digits.length - 1)
  -- a text with nothing before its only hyphen has no plain part, and the hyphen is no digit
  let digits := if plain.isEmpty then text else digits
  let decoder ← digits.foldlM Decoder.step (.begin plain)
  if decoder.place = 36 then some decoder.decoded else none

end Passbook.Text.Punycode
