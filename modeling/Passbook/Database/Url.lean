import Passbook.Database.Host

/-!
Addresses in their generic form: a scheme, then perhaps user, password, host and port, a path and a
query. The parts are kept as they are written, with their escapes; a fragment is forgotten, and full
stops that stand alone in a path are followed. Blanks around an address and line breaks within it
count for nothing.
-/

set_option autoImplicit false

namespace Passbook.Database

/-- The parts of an address. -/
structure Url where
  scheme : List Char
  user : List Char
  password : List Char
  host : List Char
  port : Option Nat
  path : List Char
  query : List Char
  deriving DecidableEq

namespace Url

/-- Whether a character may stand in a scheme after its first letter. -/
def isSchemeChar (char : Char) : Bool := char.isAlphanum || "+-.".toList.contains char

/-- Whether a scheme is one of the web, with rules of its own. -/
def isWebScheme (scheme : List Char) : Bool :=
  ["http", "https", "ws", "wss", "ftp"].contains (String.ofList scheme)

/-- Whether a character ends the part with user, host and port. -/
def endsAuthority (isWeb : Bool) (char : Char) : Bool :=
  char = '/' || char = '?' || char = '#' || (isWeb && char = '\\')

/-- The text without what counts for nothing. -/
def cleaned (text : List Char) : List Char :=
  let isBlank (char : Char) : Bool := char.toNat ≤ 0x20
  let trimmed := ((text.dropWhile isBlank).reverse.dropWhile isBlank).reverse
  trimmed.filter fun char => char != '\t' && char != '\n' && char != '\r'

/-- Splits off a scheme. Its letters are taken as small ones. -/
def splitScheme? (text : List Char) : Option (List Char × List Char) :=
  let scheme := text.takeWhile isSchemeChar
  match scheme.head?, text.drop scheme.length with
  | some first, ':' :: rest => if first.isAlpha then some (scheme.map Char.toLower, rest) else none
  | _, _ => none

/-- Splits a path from its query. What follows a number sign belongs to neither. -/
def splitQuery (text : List Char) : List Char × List Char :=
  let text := text.takeWhile (· != '#')
  match Text.splitFirst ['?'] text with
  | some (path, query) => (path, query)
  | none => (text, [])

def isDrive : List Char → Bool
  | [letter, mark] => letter.isAlpha && (mark = ':' || mark = '|')
  | _ => false

/-- The escapes of full stops read, and no others. -/
def withPoints : List Char → List Char
  | [] => []
  | char :: rest =>
      if ['%', '2', 'e'].isPrefixOf (char :: rest) ∨ ['%', '2', 'E'].isPrefixOf (char :: rest) then
        '.' :: withPoints (rest.drop 2)
      else char :: withPoints rest
termination_by text => text.length

/-- Follows one segment of a path, whose last segment comes first: a full stop stays where it is,
two full stops leave the last segment unless that is a drive. -/
def follow (path : List (List Char)) (segment : List Char) : List (List Char) :=
  match withPoints segment with
  | ['.'] => path
  | ['.', '.'] =>
      match path with
      | last :: rest => if isDrive last then path else rest
      | [] => []
  | _ => segment :: path

/-- The path that is reached by following all segments. The web and files also put backslashes
between segments. -/
def resolved (takesBackslash : Bool) (path : List Char) : List Char :=
  let path :=
    if takesBackslash then path.map fun char => if char = '\\' then '/' else char else path
  ['/'].intercalate ((Text.splitAll '/' path).foldl follow []).reverse

/-- The length of a host. A colon in brackets belongs to it. -/
def hostLength : (inBrackets : Bool) → List Char → Nat
  | _, [] => 0
  | inBrackets, char :: rest =>
      if char = ':' ∧ inBrackets = false then 0
      else if char = '[' then hostLength true rest + 1
      else if char = ']' then hostLength false rest + 1
      else hostLength inBrackets rest + 1

/-- Reads a port after its colon. No digits mean no port. A backslash ends a port in every scheme;
the text from there on is returned. -/
def readPort? (text : List Char) : Option (Option Nat × List Char) :=
  let digits := text.takeWhile Char.isDigit
  let rest := text.drop digits.length
  if Text.digitsValue digits ≤ 65535 ∧ (rest = [] ∨ rest.head? = some '\\') then
    some (if digits.isEmpty then none else some (Text.digitsValue digits), rest)
  else none

/-- Splits user and password from the rest. The last at sign counts, and a user without a host is
refused. -/
def splitUser? (authority : List Char) (isLast : Bool) :
    Option (List Char × List Char × List Char) :=
  match Text.splitLast '@' authority with
  | none => some ([], [], authority)
  | some (credentials, host) =>
      if credentials.isEmpty && host.isEmpty && !isLast then none
      else
        match Text.splitFirst [':'] credentials with
        | some (user, password) =>
            if host.isEmpty && !(user.isEmpty && password.isEmpty) then none
            else some (user, password, host)
        | none =>
            if host.isEmpty && !credentials.isEmpty then none else some (credentials, [], host)

def readAuthority? (scheme text : List Char) : Option Url := do
  let isWeb := isWebScheme scheme
  let authority := text.takeWhile fun char => !endsAuthority isWeb char
  let after := text.drop authority.length
  let (user, password, hostAndPort) ← splitUser? authority after.isEmpty
  let host := hostAndPort.take (hostLength false hostAndPort)
  let portText := hostAndPort.drop host.length
  let (port, left) ← if portText.isEmpty then some (none, []) else readPort? (portText.drop 1)
  let (path, query) := splitQuery (left ++ after)
  let path := resolved isWeb path
  if host.isEmpty && (isWeb || !portText.isEmpty) then none
  else if isWeb then
    if isWebHost host then some ⟨scheme, user, password, host, port, path, query⟩ else none
  else if isAnyHost host then some ⟨scheme, user, password, host, port, path, query⟩
  else none

/-- Reads what follows the scheme of files: perhaps a host, and a path. A drive after two slashes is
no host. -/
def readFile? (scheme text : List Char) : Option Url :=
  let isSlash (char : Char) : Bool := char = '/' || char = '\\'
  let ofParts (host pathAndQuery : List Char) : Url :=
    let (path, query) := splitQuery pathAndQuery
    ⟨scheme, [], [], host, none, resolved true path, query⟩
  if 2 ≤ text.length ∧ (text.take 2).all isSlash then
    let rest := text.drop 2
    let host := rest.takeWhile fun char => !endsAuthority true char
    if isDrive host then some (ofParts [] rest)
    else if host.isEmpty || isWebHost host then some (ofParts host (rest.drop host.length))
    else none
  else some (ofParts [] text)

def read? (text : List Char) : Option Url := do
  let (scheme, rest) ← splitScheme? (cleaned text)
  if isWebScheme scheme then
    readAuthority? scheme (rest.dropWhile fun char => char = '/' || char = '\\')
  else if scheme = "file".toList then readFile? scheme rest
  else
    match rest with
    | '/' :: '/' :: rest => readAuthority? scheme rest
    | rest =>
        let (path, query) := splitQuery rest
        let path := if path.head? = some '/' then resolved false path else path
        some ⟨scheme, [], [], [], none, path, query⟩

end Url

end Passbook.Database
