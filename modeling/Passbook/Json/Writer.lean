/-!
Writing documents: no spaces, members in a given order, and in strings the shortest escapes, only
where they are needed.
-/

set_option autoImplicit false

namespace Passbook.Json

/-- A hexadecimal digit, in lower case. -/
def hexDigit (value : Nat) : Char :=
  Char.ofNat (if value < 10 then '0'.toNat + value else 'a'.toNat + value - 10)

def writtenChar (char : Char) : List Char :=
  if char = '"' then ['\\', '"']
  else if char = '\\' then ['\\', '\\']
  else if char = '\n' then ['\\', 'n']
  else if char = '\r' then ['\\', 'r']
  else if char = '\t' then ['\\', 't']
  else if char = '\x08' then ['\\', 'b']
  else if char = '\x0c' then ['\\', 'f']
  else if char.toNat < 0x20 then
    ['\\', 'u', '0', '0', hexDigit (char.toNat / 16), hexDigit (char.toNat % 16)]
  else [char]

def writeChars (text : List Char) : List Char := '"' :: text.flatMap writtenChar ++ ['"']

def writeText (text : String) : List Char := writeChars text.toList

def writeInt (value : Int) : List Char := (toString value).toList

def joined : List (List Char) → List Char
  | [] => []
  | [part] => part
  | part :: rest => part ++ ',' :: joined rest

def writeArray (elements : List (List Char)) : List Char := '[' :: joined elements ++ [']']

def writeObject (members : List (String × List Char)) : List Char :=
  '{' :: joined (members.map fun (name, value) => writeText name ++ ':' :: value) ++ ['}']

end Passbook.Json
