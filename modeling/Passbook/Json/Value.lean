import Passbook.Json.Number
import Passbook.Text.Quoted

/-!
Reading one value of a document. `readHead` reads a scalar whole and of a list or record only the
opening bracket, which is all that is needed to say whether it has the wanted type. `skipValue`
passes over a value of any type and any depth.
-/

set_option autoImplicit false

namespace Passbook.Json

/-- The first part of a value. -/
inductive Head
  | null
  | boolean (value : Bool)
  | number (value : Number)
  | text (content : List Char)
  | array
  | object

/-- How a value is called in a message. -/
def Head.describe : Head → String
  | null => "null"
  | boolean true => "boolean `true`"
  | boolean false => "boolean `false`"
  | number value => value.describe
  | text content => "string " ++ String.ofList (Text.quoted content)
  | array => "sequence"
  | object => "map"

def Head.unexpected (head : Head) (expected : String) : Fault :=
  .because ("invalid type: " ++ head.describe ++ ", expected " ++ expected)

/-- The fault of a value that has the expected type but is not acceptable. -/
def Head.unacceptable (head : Head) (expected : String) : Fault :=
  .because ("invalid value: " ++ head.describe ++ ", expected " ++ expected)

def readHead (source : Source) : Except Fault (Head × Source) :=
  match skipSpaces source with
  | some char :: rest =>
      match char with
      | 'n' => (expectWord ['u', 'l', 'l'] rest).map fun rest => (.null, rest)
      | 't' => (expectWord ['r', 'u', 'e'] rest).map fun rest => (.boolean true, rest)
      | 'f' => (expectWord ['a', 'l', 's', 'e'] rest).map fun rest => (.boolean false, rest)
      | '"' => (readString rest).map fun (content, rest) => (.text content, rest)
      | '[' => .ok (.array, rest)
      | '{' => .ok (.object, rest)
      | '-' => (readNumber true rest).map fun (number, rest) => (.number number, rest)
      | _ => (readNumber false (some char :: rest)).map fun (number, rest) => (.number number, rest)
  | _ => .error .malformed

/-- A list or record that has been opened and not closed. -/
inductive Bracket
  | array
  | object
  deriving DecidableEq

/-- What comes next while a value is passed over. -/
inductive Awaiting
  | value
  | comma

def skipName (source : Source) : Except Fault Source :=
  match skipSpaces source with
  | some '"' :: rest => do
      let rest ← skipString rest
      expect ':' rest
  | _ => .error .malformed

def skipScalar : Source → Except Fault Source
  | some char :: rest =>
      match char with
      | 'n' => expectWord ['u', 'l', 'l'] rest
      | 't' => expectWord ['r', 'u', 'e'] rest
      | 'f' => expectWord ['a', 'l', 's', 'e'] rest
      | '"' => skipString rest
      | '-' => (readNumberText true rest).map Prod.snd
      | _ => (readNumberText false (some char :: rest)).map Prod.snd
  | _ => .error .malformed

/-- Passes over the rest of the open brackets, the innermost first. Each step uses up at least one
symbol. -/
def skipFrom : (fuel : Nat) → Awaiting → List Bracket → Source → Except Fault Source
  | 0, _, _, _ => .error .malformed
  | fuel + 1, .value, stack, source =>
      match skipSpaces source with
      | some '[' :: rest =>
          match skipSpaces rest with
          | some ']' :: rest => skipFrom fuel .comma stack rest
          | rest => skipFrom fuel .value (.array :: stack) rest
      | some '{' :: rest =>
          match skipSpaces rest with
          | some '}' :: rest => skipFrom fuel .comma stack rest
          | rest =>
              match skipName rest with
              | .ok rest => skipFrom fuel .value (.object :: stack) rest
              | .error fault => .error fault
      | rest =>
          match skipScalar rest with
          | .ok rest => skipFrom fuel .comma stack rest
          | .error fault => .error fault
  | _, .comma, [], source => .ok source
  | fuel + 1, .comma, top :: stack, source =>
      match skipSpaces source, top with
      | some ',' :: rest, .array => skipFrom fuel .value (top :: stack) rest
      | some ',' :: rest, .object =>
          match skipName rest with
          | .ok rest => skipFrom fuel .value (top :: stack) rest
          | .error fault => .error fault
      | some ']' :: rest, .array => skipFrom fuel .comma stack rest
      | some '}' :: rest, .object => skipFrom fuel .comma stack rest
      | _, _ => .error .malformed

/-- Passes over one value. The fuel is never short when it is larger than the length of the source.
-/
def skipValue (fuel : Nat) (source : Source) : Except Fault Source := skipFrom fuel .value [] source

abbrev Reader (α : Type) := Source → Except Fault (α × Source)

/-- Reads a whole document: one value and nothing but spaces after it. -/
def readDocument {α : Type} (reader : Reader α) (source : Source) : Except Fault α := do
  let (value, rest) ← reader source
  if (skipSpaces rest).isEmpty then return value else throw .malformed

end Passbook.Json
