import Passbook.Database.Domain
import Passbook.Text.Percent
import Passbook.Text.Utf8

/-!
Names and numbers of hosts in addresses. What may be a host depends on the scheme of the address:
the schemes of the web take domain names and read a name that ends in a number as four bytes, all
others take any name without marks.
-/

set_option autoImplicit false

namespace Passbook.Database

/-- Whether a text is a number from 0 to 255 without superfluous zeros. -/
def isByte (text : List Char) : Bool :=
  !text.isEmpty && text.length ≤ 3 && text.all Char.isDigit && Text.digitsValue text ≤ 255 &&
    (text.length == 1 || text.head? != some '0')

def isIpv4 (text : List Char) : Bool :=
  let parts := Text.splitAll '.' text
  parts.length == 4 && parts.all isByte

def isGroup (text : List Char) : Bool :=
  !text.isEmpty && text.length ≤ 4 && text.all fun char => (Text.hexValue? char).isSome

/-- The number of groups that some groups with colons between them stand for; the last one may be
four bytes if that is allowed. -/
def groupCount? (allowsBytes : Bool) (text : List Char) : Option Nat :=
  if text.isEmpty then some 0
  else
    let parts := Text.splitAll ':' text
    match parts.getLast? with
    | some last =>
        if parts.all isGroup then some parts.length
        else if allowsBytes && parts.dropLast.all isGroup && isIpv4 last then
          some (parts.length + 1)
        else none
    | none => none

/-- Whether a text is an address of eight groups. A double colon stands for at least one group that
is zero. -/
def isIpv6 (text : List Char) : Bool :=
  match Text.splitFirst [':', ':'] text with
  | some (before, after) =>
      match groupCount? false before, groupCount? true after with
      | some first, some second => first + second ≤ 7
      | _, _ => false
  | none => groupCount? true text == some 8

def isBracketed (text : List Char) : Bool :=
  match text with
  | '[' :: rest => rest.getLast? == some ']' && isIpv6 rest.dropLast
  | _ => false

def isHostMark (char : Char) : Bool := char.toNat = 0 || " #/:<>?@[\\]^|".toList.contains char

/-- Whether a text is a host, for schemes that take any name. It may be empty. -/
def isAnyHost (text : List Char) : Bool :=
  if text.head? == some '[' then isBracketed text else !text.any isHostMark

/-- The value of a part of a numeric address: decimal, octal after a zero, or hexadecimal after
`0x`. -/
def numericPart? : List Char → Option Nat
  | [] => none
  | ['0'] => some 0
  | '0' :: 'x' :: digits => hexadecimal? digits
  | '0' :: 'X' :: digits => hexadecimal? digits
  | '0' :: digits =>
      if digits.all fun digit => '0' ≤ digit ∧ digit ≤ '7' then
        some (digits.foldl (fun value digit => value * 8 + Text.digitValue digit) 0)
      else none
  | digits => if digits.all Char.isDigit then some (Text.digitsValue digits) else none
where
  hexadecimal? (digits : List Char) : Option Nat :=
    digits.foldlM (fun value digit => (Text.hexValue? digit).map (value * 16 + ·)) 0

/-- The parts of a name between points. A point at the end counts for nothing. -/
def labels (name : List Char) : List (List Char) :=
  let parts := Text.splitAll '.' name
  if 1 < parts.length ∧ parts.getLast? = some [] then parts.dropLast else parts

/-- Whether a name ends in a number and is therefore no domain name. -/
def endsInNumber (name : List Char) : Bool :=
  match (labels name).getLast? with
  | some last => (!last.isEmpty && last.all Char.isDigit) || (numericPart? last).isSome
  | none => false

/-- Whether a name is a numeric address: at most four parts, of which the last one fills the bytes
that the others leave. -/
def isNumericHost (name : List Char) : Bool :=
  let parts := labels name
  match parts.mapM numericPart? with
  | some values =>
      values.length ≤ 4 && values.dropLast.all (· ≤ 255) &&
        values.getLast?.any (· < twoTo (8 * (5 - values.length)))
  | none => false

/-- Whether a text is a host, for the schemes of the web. Escapes are read first. -/
def isWebHost (text : List Char) : Bool :=
  if text.head? == some '[' then isBracketed text
  else
    match (Text.ofUtf8? (Text.percentDecoded text)).bind Domain.labels? with
    | some labels =>
        let name := Domain.outline labels
        !name.isEmpty && (!endsInNumber name || isNumericHost name)
    | none => false

end Passbook.Database
