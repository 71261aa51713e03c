import TaskMail.Json.Value
import TaskMail.Log.Filter
import TaskMail.Text.Line

/-!
# TaskMail.Log.Format

How the log is written.

* `Format`       — one JSON object for a record, or text.
* `Format.read`  — the format with a name, and a warning when there is none.
* `Line`         — a line of the log.
* `lines`        — the lines of a log.
-/

namespace TaskMail.Log

inductive Format where
  | json
  | pretty
  deriving Repr, DecidableEq

namespace Format

def name : Format → String
  | .json => "json"
  | .pretty => "pretty"

def ofName? (s : String) : Option Format :=
  if s = "json" then some .json else if s = "pretty" then some .pretty else none

def unknownText (s : String) : String :=
  "WARNING: unknown LOG_FORMAT=" ++ Text.quote s ++ ", falling back to pretty"

/-- The format with a name, and the warning if there is no such format. -/
def read (s : String) : Format × Option String :=
  match ofName? s with
  | some f => (f, none)
  | none => (.pretty, some (unknownText s))

end Format

inductive Line where
  | json (v : Json.Value)
  | text (s : String)
  deriving Repr

def Field.value : Field → Json.Value
  | .text s => .string s
  | .number n => .number (.integer n)

def Record.value (r : Record) : Json.Value :=
  .object ([("level", .string r.level.name), ("target", .string r.target),
    ("message", .string r.message)] ++ r.fields.map fun f => (f.1, f.2.value))

/-- Characters that a terminal would obey are written as their codes. -/
def harmless (c : Char) : List Char :=
  if c = '\x1b' ∨ c = '\x07' ∨ c = '\x08' ∨ c = '\x0c' ∨ c = '\x7f' then
    ['\\', 'x'] ++ [Nat.digitChar (c.toNat / 16), Nat.digitChar (c.toNat % 16)]
  else if 0x80 ≤ c.toNat ∧ c.toNat ≤ 0x9F then
    ['\\', 'u', '\x7b'] ++ Text.hexDigits c.toNat ++ ['\x7d']
  else [c]

def Field.shown : Field → String
  | .text s => s
  | .number n => toString n

def Record.shown (r : Record) : String :=
  r.level.name ++ " " ++ r.target ++ ": " ++
    String.ofList (r.message.toList.flatMap harmless) ++
    String.join (r.fields.map fun f => " " ++ f.1 ++ "=" ++ f.2.shown)

/-- The lines of a record; a field may bring line ends of its own. -/
def Record.lines (r : Record) : Format → List Line
  | .json => [.json r.value]
  | .pretty => (Text.lines (r.shown ++ "\n")).map .text

def Line.shown : Line → String
  | .json v => v.text
  | .text s => s

/-- The lines for some events: those that the filter keeps. -/
def lines (format : Format) (filter : Filter) (events : List Event) : List Line :=
  ((events.map Event.record).filter filter.keeps).flatMap fun r => r.lines format

end TaskMail.Log
