import Passbook.Text.Split
import Passbook.Text.Utf8

/-!
The target of a request, and the path in it. A target is a path with perhaps a query, an absolute
address, or an authority alone; a fragment is cut off. Paths are compared as they are written; only
the variable part of a path is decoded.
-/

set_option autoImplicit false

namespace Passbook.Http

/-- Whether a character may stand in the name of a method or header, or in a media type. -/
def isTokenChar (char : Char) : Bool :=
  char.isAlphanum || "!#$%&'*+-.^_`|~".toList.contains char

/-- Whether a character may stand in a path. More is let through than has to be written without
escapes. -/
def isPathChar (char : Char) : Bool :=
  0x20 < char.toNat && char.toNat != 0x7F && !"#<>?`".toList.contains char

def isQueryChar (char : Char) : Bool :=
  0x20 < char.toNat && char.toNat != 0x7F && !"\"#<>".toList.contains char

/-- Whether a character may stand in an authority. A percent sign is judged by its place. -/
def isAuthorityChar (char : Char) : Bool :=
  char.isAlphanum || "!$%&'()*+,-.:;=@[]_~".toList.contains char

def endsAuthority (char : Char) : Bool := char == '/' || char == '?' || char == '#'

/-- What has been seen of an authority. -/
structure AuthorityScan where
  colons : Nat
  bracketOpened : Bool
  bracketClosed : Bool
  percent : Bool

/-- Scans one character of an authority. What comes before an at sign or inside brackets does not
count as host and port. -/
def AuthorityScan.step (scan : AuthorityScan) (char : Char) : Option AuthorityScan :=
  if !isAuthorityChar char then none
  else if char = ':' then
    if 8 ≤ scan.colons then none else some { scan with colons := scan.colons + 1 }
  else if char = '[' then
    if scan.percent || scan.bracketOpened then none else some { scan with bracketOpened := true }
  else if char = ']' then
    if !scan.bracketOpened || scan.bracketClosed then none
    else some { scan with bracketClosed := true, colons := 0, percent := false }
  else if char = '@' then some { scan with colons := 0, percent := false }
  else if char = '%' then some { scan with percent := true }
  else some scan

def isAuthority (text : List Char) : Bool :=
  match text.foldlM AuthorityScan.step ⟨0, false, false, false⟩ with
  | some scan =>
      scan.bracketOpened == scan.bracketClosed && scan.colons ≤ 1 && !scan.percent &&
        text.getLast? != some '@'
  | none => false

/-- The path of a text that consists of a path and perhaps a query. -/
def pathOf? (text : List Char) : Option (List Char) :=
  let path := text.takeWhile fun char => char != '?' && char != '#'
  let query := match text.drop path.length with
    | '?' :: query => query.takeWhile (· != '#')
    | _ => []
  if path.all isPathChar && query.all isQueryChar then some path else none

/-- The text after the scheme, if there is a scheme. -/
def afterScheme? (text : List Char) : Option (List Char) :=
  let name := text.takeWhile fun char => char.isAlphanum || "+-.~".toList.contains char
  match text.drop name.length with
  | ':' :: '/' :: '/' :: rest => some rest
  | _ => none

/-- The longest target, in bytes. -/
def maxTargetLength : Nat := 65534

def maxSchemeLength : Nat := 64

/-- The path of a target; none if no request can have that target. -/
def path? (target : List Char) : Option (List Char) :=
  if maxTargetLength < (Text.toUtf8 target).length then none
  else if target.head? == some '/' then pathOf? target
  else if target = ['*'] then some target
  else
    match afterScheme? target with
    | some rest =>
        let authority := rest.takeWhile fun char => !endsAuthority char
        if maxSchemeLength < target.length - rest.length - 3 then none
        else if authority.isEmpty || !isAuthority authority then none
        else (pathOf? (rest.drop authority.length)).map fun path => if path.isEmpty then
          ['/'] else path
    | none => if !target.isEmpty && isAuthority target then some [] else none

def segments (current : List Char) : List Char → List (List Char)
  | [] => [current.reverse]
  | '/' :: rest => current.reverse :: segments [] rest
  | char :: rest => segments (char :: current) rest

end Passbook.Http
