/-!
Reading bytes as UTF-8. Bytes that belong to no character, among them overlong forms and surrogates,
are kept apart one by one.
-/

set_option autoImplicit false

namespace Passbook.Text

def continuation? (byte : UInt8) : Option Nat :=
  if 0x80 ≤ byte ∧ byte < 0xC0 then some (byte.toNat - 0x80) else none

/-- The character of a code point that is at least `least` and no surrogate. -/
def charFrom? (least code : Nat) : Option Char :=
  if least ≤ code ∧ code.isValidChar then some (Char.ofNat code) else none

/-- The character of a leading byte below 0xE0, and the bytes after it. -/
def decodeTwo? (first : UInt8) : List UInt8 → Option (Char × List UInt8)
  | second :: rest => do
      let second ← continuation? second
      let char ← charFrom? 0x80 ((first.toNat - 0xC0) * 0x40 + second)
      return (char, rest)
  | [] => none

/-- The character of a leading byte below 0xF0, and the bytes after it. -/
def decodeThree? (first : UInt8) : List UInt8 → Option (Char × List UInt8)
  | second :: third :: rest => do
      let second ← continuation? second
      let third ← continuation? third
      let char ← charFrom? 0x800 ((first.toNat - 0xE0) * 0x1000 + second * 0x40 + third)
      return (char, rest)
  | _ => none

/-- The character of a leading byte below 0xF8, and the bytes after it. -/
def decodeFour? (first : UInt8) : List UInt8 → Option (Char × List UInt8)
  | second :: third :: fourth :: rest => do
      let second ← continuation? second
      let third ← continuation? third
      let fourth ← continuation? fourth
      let char ← charFrom? 0x10000
        ((first.toNat - 0xF0) * 0x40000 + second * 0x1000 + third * 0x40 + fourth)
      return (char, rest)
  | _ => none

/-- The first character of some bytes, and the bytes after it. -/
def decodeChar? : List UInt8 → Option (Char × List UInt8)
  | [] => none
  | first :: rest =>
      if first < 0x80 then some (Char.ofNat first.toNat, rest)
      else if first < 0xC0 then none
      else if first < 0xE0 then decodeTwo? first rest
      else if first < 0xF0 then decodeThree? first rest
      else if first < 0xF8 then decodeFour? first rest
      else none

/-- Reads characters, the last one first. Each step uses up at least one byte. -/
def decodeFrom : (fuel : Nat) → (read : List (Option Char)) → List UInt8 → List (Option Char)
  | 0, read, _ => read
  | _, read, [] => read
  | fuel + 1, read, byte :: rest =>
      match decodeChar? (byte :: rest) with
      | some (char, rest) => decodeFrom fuel (some char :: read) rest
      | none => decodeFrom fuel (none :: read) rest

/-- The characters of some bytes, with `none` for each byte that belongs to no character. -/
def decodeUtf8 (bytes : List UInt8) : List (Option Char) :=
  (decodeFrom bytes.length [] bytes).reverse

/-- The text of some bytes, if all of them belong to characters. -/
def ofUtf8? (bytes : List UInt8) : Option (List Char) :=
  let symbols := decodeUtf8 bytes
  if symbols.all Option.isSome then some (symbols.filterMap id) else none

def toUtf8 (text : List Char) : List UInt8 := text.flatMap String.utf8EncodeChar

end Passbook.Text
