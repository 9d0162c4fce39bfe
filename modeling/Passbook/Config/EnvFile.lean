import Passbook.Config.Settings
import Passbook.Text.Alphanumeric
import Passbook.Text.Blank

/-!
Files of settings, one `NAME=value` a line. Values may be quoted, may run over several lines while a
quote is open, and may refer to other settings by a dollar sign. A line that cannot be read ends the
file; the lines before it count.
-/

set_option autoImplicit false

namespace Passbook.Config.EnvFile

open Text (isAlphanumeric isBlank trimStart trimEnd)

/-- What the end of a line has to do with the next line. -/
inductive LineState
  | complete
  | blank
  | escape
  | strong
  | strongEscape
  | weak
  | weakEscape
  | comment
  deriving DecidableEq

/-- The state after one more character. A comment begins only after white space. -/
def LineState.step : LineState → Char → LineState
  | complete, char =>
      if isBlank char && char != '\n' && char != '\r' then blank
      else if char = '\\' then escape
      else if char = '"' then weak
      else if char = '\'' then strong
      else complete
  | blank, char =>
      if char = '#' then comment
      else if char = '\\' then escape
      else if char = '"' then weak
      else if char = '\'' then strong
      else complete
  | escape, _ => complete
  | weak, char => if char = '\\' then weakEscape else if char = '"' then complete else weak
  | weakEscape, _ => weak
  | strong, char => if char = '\\' then strongEscape else if char = '\'' then complete else strong
  | strongEscape, _ => strong
  | comment, _ => comment

/-- Runs through a line; what follows the start of a comment is dropped. -/
def scanLine : LineState → List Char → LineState × List Char
  | state, [] => (state, [])
  | state, char :: rest =>
      match state.step char with
      | .comment => (.comment, [])
      | next =>
          let (last, kept) := scanLine next rest
          (last, char :: kept)

def physicalLines (current : List Char) : List Char → List (List Char)
  | [] => if current.isEmpty then [] else [current.reverse]
  | char :: rest =>
      if char = '\n' then ('\n' :: current).reverse :: physicalLines [] rest
      else physicalLines (char :: current) rest

/-- Removes one line end. -/
def dropLineEnd (line : List Char) : List Char :=
  match line.reverse with
  | '\n' :: '\r' :: rest => rest.reverse
  | '\n' :: rest => rest.reverse
  | _ => line

/-- Joins lines that belong together. A line that is never finished is `none`. -/
def logicalLines : LineState → (begun : List Char) → List (List Char) → List (Option (List Char))
  | .complete, _, [] => []
  | _, _, [] => [none]
  | state, begun, line :: rest =>
      if (trimStart (begun ++ line)).head? = some '#' then some [] :: logicalLines .complete [] rest
      else
        let (last, kept) := scanLine state line
        match last with
        | .complete => some (dropLineEnd (begun ++ line)) :: logicalLines .complete [] rest
        | .comment => some (begun ++ kept) :: logicalLines .complete [] rest
        | last => logicalLines last (begun ++ line) rest

/-- A reference to a setting that is being read. -/
inductive Reference
  | none
  | open
  | braced
  deriving DecidableEq

structure Value where
  strong : Bool
  weak : Bool
  escaped : Bool
  ended : Bool
  reference : Reference
  name : List Char
  read : List Char

/-- The value with the setting that the collected name refers to, or nothing if there is no such
setting. -/
def Value.substituted (value : Value) (settings : Settings) : Value :=
  { value with
    name := []
    read := value.read ++ (settings.getOr (String.ofList value.name) "").toList }

def Value.stepReference (value : Value) (settings : Settings) (char : Char) : Value :=
  if isAlphanumeric char then { value with name := value.name ++ [char] }
  else match value.reference with
    | .braced =>
        if char = '}' then { value.substituted settings with reference := .none }
        else { value with name := value.name ++ [char] }
    | _ =>
        if char = '{' ∧ value.name = [] then { value with reference := .braced }
        else if char = '$' then { value.substituted settings with reference := .open }
        else
          let value := value.substituted settings
          { value with reference := .none, read := value.read ++ [char] }

/-- The value after one more character: none if the character cannot stand there. After white space
only a comment may follow. -/
def Value.step (settings : Settings) (value : Value) (char : Char) : Option Value :=
  if value.ended then
    if char = ' ' ∨ char = '\t' then some value else none
  else if value.escaped then
    if char = '\\' ∨ char = '\'' ∨ char = '"' ∨ char = '$' ∨ char = ' ' then
      some { value with escaped := false, read := value.read ++ [char] }
    else if char = 'n' then some { value with escaped := false, read := value.read ++ ['\n'] }
    else none
  else if value.strong then
    if char = '\'' then some { value with strong := false }
    else some { value with read := value.read ++ [char] }
  else if value.reference ≠ .none then some (value.stepReference settings char)
  else if char = '$' then some { value with reference := .open }
  else if char = '\\' then some { value with escaped := true }
  else if value.weak then
    if char = '"' then some { value with weak := false }
    else some { value with read := value.read ++ [char] }
  else if char = '\'' then some { value with strong := true }
  else if char = '"' then some { value with weak := true }
  else if char = ' ' ∨ char = '\t' then some { value with ended := true }
  else some { value with read := value.read ++ [char] }

def readValueFrom (settings : Settings) (value : Value) : List Char → Option (List Char)
  | [] =>
      if value.reference = .braced ∨ value.strong ∨ value.weak then none
      else some (value.substituted settings).read
  | char :: rest =>
      if value.ended ∧ char = '#' then readValueFrom settings value []
      else
        match value.step settings char with
        | some value => readValueFrom settings value rest
        | none => none

def readValue (settings : Settings) (text : List Char) : Option (List Char) :=
  readValueFrom settings ⟨false, false, false, false, .none, [], []⟩ text

def readName (text : List Char) : Option (List Char × List Char) :=
  match text with
  | first :: _ =>
      if first.isAlpha || first == '_' then
        let belongs := fun (char : Char) => char.isAlphanum || char == '_' || char == '.'
        some (text.takeWhile belongs, text.dropWhile belongs)
      else none
  | [] => none

inductive Line
  | nothing
  | setting (name value : String)
  | unreadable

/-- Reads a line. The word `export` before a name says nothing. -/
def readLine (settings : Settings) (line : List Char) : Line :=
  let text := trimStart (trimEnd line)
  if text.isEmpty || text.head? == some '#' then .nothing
  else
    let assignment := do
      let (name, rest) ← readName text
      let rest := trimStart rest
      match rest with
      | '=' :: rest => return (name, rest)
      | rest =>
          if name = "export".toList then
            let (name, rest) ← readName rest
            match trimStart rest with
            | '=' :: rest => return (name, rest)
            | _ => none
          else none
    match assignment with
    | none => .unreadable
    | some (name, rest) =>
        let rest := trimStart rest
        if rest.isEmpty || rest.head? == some '#' then .setting (String.ofList name) ""
        else
          match readValue settings rest with
          | some value => .setting (String.ofList name) (String.ofList value)
          | none => .unreadable

/-- Adds the settings of lines, up to the first unreadable one. A setting that is already there
stays. -/
def loadLines (settings : Settings) : List (Option (List Char)) → Settings
  | [] => settings
  | none :: _ => settings
  | some line :: rest =>
      match readLine settings line with
      | .nothing => loadLines settings rest
      | .setting name value =>
          loadLines (if (settings.get? name).isSome then settings else
            settings ++ [(name, value)]) rest
      | .unreadable => settings

/-- Adds the settings of a file. A byte order mark at its start is not part of it. -/
def load (settings : Settings) (text : String) : Settings :=
  let text := match text.toList with
    | '\ufeff' :: rest => rest
    | text => text
  loadLines settings (logicalLines .complete [] (physicalLines [] text))

end Passbook.Config.EnvFile
