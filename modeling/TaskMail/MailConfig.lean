import TaskMail.Json.Printer
import TaskMail.Json.Reader

/-!
# TaskMail.MailConfig

What the standard input asks to be mailed.

* `MailConfig`        — the fields of the configuration, all of them text.
* `ConfigFault`       — what can be wrong with it.
* `MailConfig.decode` — the configuration in a JSON text.
-/

namespace TaskMail

structure MailConfig where
  recipient : String
  cc : Option String
  subject : String
  body : String
  /-- The name of the policy, not checked yet. -/
  trigger : String
  deriving Repr, DecidableEq

inductive ConfigFault where
  | malformed (error : Json.SyntaxError)
  | notAnObject
  | missing (key : String)
  | notText (key : String) (v : Json.Value)
  deriving Repr

def ConfigFault.text : ConfigFault → String
  | .malformed error => error.text
  | .notAnObject => "configuration is not a JSON object"
  | .missing key => "missing required field '" ++ key ++ "'"
  | .notText key v => "field '" ++ key ++ "' must be a string, got " ++ v.text

namespace MailConfig

abbrev Fields := Json.Members Json.Value

/-- A field that may be absent or null. -/
def optional (fields : Fields) (key : String) : Except ConfigFault (Option String) :=
  match fields.last? key with
  | none | some .null => .ok none
  | some (.string s) => .ok (some s)
  | some v => .error (.notText key v)

def required (fields : Fields) (key : String) : Except ConfigFault String :=
  match optional fields key with
  | .ok (some s) => .ok s
  | .ok none => .error (.missing key)
  | .error e => .error e

/-- The fields are checked in this order. An empty copy means none. -/
def ofFields (fields : Fields) : Except ConfigFault MailConfig := do
  let recipient ← required fields "to"
  let cc ← optional fields "cc"
  let subject ← required fields "subject"
  let body ← required fields "body"
  let trigger ← required fields "when"
  return ⟨recipient, cc.filter (· ≠ ""), subject, body, trigger⟩

def ofValue (v : Json.Value) : Except ConfigFault MailConfig :=
  match v with
  | .object fields => ofFields fields
  | _ => .error .notAnObject

def decode (input : Bytes) : Except ConfigFault MailConfig :=
  match Json.read input with
  | .ok v => ofValue v
  | .error e => .error (.malformed e)

end MailConfig

end TaskMail
