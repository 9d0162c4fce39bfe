import Passbook.Log.Event
import Passbook.Text.Blank

/-!
How a process shows its events: the form of a line and the least grave level that is shown. A form
that cannot be read is reported as an event of its own, in the default form.
-/

set_option autoImplicit false

namespace Passbook.Log

inductive Format
  | json
  | pretty
  deriving DecidableEq

namespace Format

def default : Format := json

def name : Format → String
  | json => "Json"
  | pretty => "Pretty"

/-- Reads a form. White space around it and the case of ASCII letters do not matter; a text that is
refused is reported that way too. -/
def read (text : String) : Except String Format :=
  let word := String.ofList ((Text.trim text.toList).map Char.toLower)
  if word = "json" then .ok json
  else if word = "pretty" ∨ word = "text" then .ok pretty
  else .error ("unknown log format '" ++ word ++ "' (expected 'json' or 'pretty')")

end Format

/-- The least rank that is shown for a filter text; `info` without a text, nothing for `off` or an
empty text. -/
def leastRank : Option String → Nat
  | none => Level.info.rank
  | some text =>
      match (Text.trim text.toList).map Char.toLower |> String.ofList with
      | "error" => Level.error.rank
      | "warn" => Level.warn.rank
      | "info" => Level.info.rank
      | "debug" => Level.debug.rank
      | "trace" => Level.trace.rank
      | _ => Level.error.rank + 1

/-- What a process shows. -/
structure Setup where
  format : Format
  leastRank : Nat
  /-- The complaint about an unreadable form. -/
  complaint : Option String

def Setup.ofTexts (format filter : Option String) : Setup :=
  match format.map Format.read with
  | none => ⟨.default, Log.leastRank filter, none⟩
  | some (.ok format) => ⟨format, Log.leastRank filter, none⟩
  | some (.error complaint) => ⟨.default, Log.leastRank filter, some complaint⟩

def Setup.warnings (setup : Setup) : List Event :=
  match setup.complaint with
  | some complaint => [.of .warn "falling back to JSON logs" [("error", complaint)]]
  | none => []

def Setup.shown (setup : Setup) (events : List Event) : List Event :=
  events.filter fun event => decide (setup.leastRank ≤ event.level.rank)

end Passbook.Log
