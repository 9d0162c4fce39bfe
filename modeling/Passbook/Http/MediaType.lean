import Passbook.Http.Target

/-!
Media types: a type, a slash, a subtype, and parameters. A body is taken as JSON if its media type
is well formed and is `application/json` or ends in `+json`.
-/

set_option autoImplicit false

namespace Passbook.Http

/-- The text after a quoted value, from inside the quotes. A value has at least one character, so a
quote that comes first is part of it; it has no tabs. -/
def afterQuoted? : List Char → Option (List Char)
  | [] => none
  | first :: rest =>
      let value := first :: rest.takeWhile (· != '"')
      match rest.dropWhile (· != '"') with
      | _ :: rest => if value.contains '\t' then none else some (rest.dropWhile (· == ' '))
      | [] => none

/-- Whether a text consists of parameters. `fuel` is the length of the text; each parameter uses
some of it up. -/
def isParameters : (fuel : Nat) → List Char → Bool
  | 0, _ => true
  | fuel + 1, text =>
      match text.dropWhile (· == ' ') with
      | [] => true
      | text =>
          let name := text.takeWhile isTokenChar
          match text.drop name.length with
          | '=' :: '"' :: rest =>
              !name.isEmpty &&
                match afterQuoted? rest with
                | some [] => true
                | some (';' :: rest) => isParameters fuel rest
                | _ => false
          | '=' :: rest =>
              let value := rest.takeWhile isTokenChar
              !name.isEmpty &&
                match rest.drop value.length with
                | [] => true
                | ';' :: rest => !value.isEmpty && isParameters fuel rest
                | _ => false
          | _ => false

/-- Whether a subtype denotes JSON: what stands before or after its last plus sign is `json`, in any
case. -/
def isJsonSubtype (subtype : List Char) : Bool :=
  let isJson := fun (name : List Char) => name.map Char.toLower == ['j', 's', 'o', 'n']
  match Text.splitLast '+' subtype with
  | some (base :: rest, suffix) => isJson (base :: rest) || isJson suffix
  | _ => isJson subtype

def isJsonMediaType (text : List Char) : Bool :=
  let type := text.takeWhile isTokenChar
  match text.drop type.length with
  | '/' :: rest =>
      let subtype := rest.takeWhile isTokenChar
      type.map Char.toLower == "application".toList && isJsonSubtype subtype &&
        match rest.drop subtype.length with
        | [] => true
        | ';' :: parameters => isParameters parameters.length parameters
        | _ => false
  | _ => false

end Passbook.Http
