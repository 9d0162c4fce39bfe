import Passbook.Json.Value

/-!
Reading records. The members may come in any order, and members of other names are passed over; the
values may also come as a list in the order of the fields. A field that occurs twice, and then one
that does not occur, make the record unfit.
-/

set_option autoImplicit false

namespace Passbook.Json

/-- A field of a record that is being read. `σ` is what has been read so far. -/
structure Field (σ : Type) where
  name : String
  isSet : σ → Bool
  read : σ → Reader σ

/-- The form of a record. -/
structure Shape (σ α : Type) where
  name : String
  fields : List (Field σ)
  start : σ
  finish : σ → Except Fault α

def required {α : Type} (name : String) : Option α → Except Fault α
  | some value => .ok value
  | none => .error (.because ("missing field `" ++ name ++ "`"))

/-- Reads the value of one field. A fault inside it names the field. -/
def Field.readInto {σ : Type} (field : Field σ) (place : String)
    (record : σ) : Reader σ := fun source =>
  (field.read record source).mapError (·.inside place)

def Shape.expected {σ α : Type} (shape : Shape σ α) : String :=
  "struct " ++ shape.name ++ " with " ++ toString shape.fields.length ++
    (if shape.fields.length = 1 then " element" else " elements")

/-- Reads one member, starting after the opening quote of its name. The fuel is for values that are
passed over. -/
def readMember {σ α : Type} (shape : Shape σ α) (fuel : Nat)
    (record : σ) : Reader σ := fun source => do
  let (name, rest) ← readString source
  match shape.fields.find? fun field => field.name.toList == name with
  | some field =>
      if field.isSet record then throw (.because ("duplicate field `" ++ field.name ++ "`"))
      let rest ← expect ':' rest
      field.readInto field.name record rest
  | none =>
      let rest ← expect ':' rest
      let rest ← skipValue fuel rest
      return (record, rest)

/-- Reads the members up to the closing brace. Each step uses up at least one symbol, so fuel that
is larger than the length of the source stays so. -/
def readMembers {σ α : Type} (shape : Shape σ α) :
    (fuel : Nat) → (first : Bool) → (record : σ) → Reader σ
  | 0, _, _, _ => .error .malformed
  | fuel + 1, first, record, source =>
      let next (rest : Source) : Except Fault (σ × Source) :=
        match readMember shape fuel record rest with
        | .ok (record, rest) => readMembers shape fuel false record rest
        | .error fault => .error fault
      match skipSpaces source, first with
      | some '}' :: rest, _ => .ok (record, rest)
      | some '"' :: rest, true => next rest
      | some ',' :: rest, false =>
          match skipSpaces rest with
          | some '"' :: rest => next rest
          | _ => .error .malformed
      | _, _ => .error .malformed

def readElements {σ α : Type} (shape : Shape σ α) :
    List (Field σ) → (index : Nat) → (record : σ) → Reader σ
  | [], _, record, source => (expect ']' source).map fun rest => (record, rest)
  | field :: fields, index, record, source => do
      let place := "[" ++ toString index ++ "]"
      let rest ← (match skipSpaces source, index with
        | some ']' :: _, _ =>
            .error (.because
              ("invalid length " ++ toString index ++ ", expected " ++ shape.expected))
        | rest, 0 => .ok rest
        | some ',' :: rest, _ =>
            match skipSpaces rest with
            | some ']' :: _ => .error .malformed
            | rest => .ok rest
        | _, _ => .error .malformed)
      let (record, rest) ← field.readInto place record rest
      readElements shape fields (index + 1) record rest

def Shape.read {σ α : Type} (shape : Shape σ α) : Reader α := fun source => do
  let (head, rest) ← readHead source
  match head with
  | .object =>
      let (record, rest) ← readMembers shape (rest.length + 1) true shape.start rest
      return (← shape.finish record, rest)
  | .array =>
      let (record, rest) ← readElements shape shape.fields 0 shape.start rest
      return (← shape.finish record, rest)
  | head => throw (head.unexpected ("struct " ++ shape.name))

def readText : Reader String := fun source => do
  let (head, rest) ← readHead source
  match head with
  | .text content => return (String.ofList content, rest)
  | head => throw (head.unexpected "a string")

def readInt64 : Reader Int := fun source => do
  let (head, rest) ← readHead source
  match head with
  | .number (.natural value) =>
      if value < twoTo 63 then return (value, rest) else throw (head.unacceptable "i64")
  | .number (.negative magnitude) => return (-(magnitude : Int), rest)
  | head => throw (head.unexpected "i64")

/-- Reads a value or `null`. -/
def readOption {α : Type} (reader : Reader α) : Reader (Option α) := fun source =>
  match skipSpaces source with
  | some 'n' :: rest => (expectWord ['u', 'l', 'l'] rest).map fun rest => (none, rest)
  | rest => (reader rest).map fun (value, rest) => (some value, rest)

end Passbook.Json
