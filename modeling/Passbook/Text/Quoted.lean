import Passbook.Text.Hidden

/-!
Quoted text for messages: double quotes around the characters, with quotes, backslashes and
everything that would not be visible written as escapes.
-/

set_option autoImplicit false

namespace Passbook.Text

/-- Hexadecimal digits of a number, in lower case. -/
def hexDigits (number : Nat) : List Char := Nat.toDigits 16 number

def quotedChar (char : Char) : List Char :=
  if char = '"' then ['\\', '"']
  else if char = '\\' then ['\\', '\\']
  else if char = '\n' then ['\\', 'n']
  else if char = '\r' then ['\\', 'r']
  else if char = '\t' then ['\\', 't']
  else if char.toNat = 0 then ['\\', '0']
  else if char.toNat < 0x20 ∨ (0x7F ≤ char.toNat ∧ isHidden char) then
    ['\\', 'u', '{'] ++ hexDigits char.toNat ++ ['}']
  else [char]

def quoted (text : List Char) : List Char := '"' :: text.flatMap quotedChar ++ ['"']

def quote (text : String) : String := String.ofList (quoted text.toList)

end Passbook.Text
