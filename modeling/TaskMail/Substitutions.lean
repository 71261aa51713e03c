import TaskMail.Metadata
import TaskMail.Text.Quoted

/-!
# TaskMail.Substitutions

Tokens in subject and body, and the values that take their places.

* `Substitutions`  — a table of tokens and values, the longest token first.
* `insert`         — adds a token or gives it a new value.
* `forTask`, `withMetadata` — the tokens of a task and those of its workflow.
* `Edit`, `edit`   — the operations that build a table, as data.
* `Scan.step`      — what one step from left to right emits and leaves to be read.
* `apply`          — a text with every token replaced.

A value is emitted as it is and never read again, and at each place the longest token that
begins there is taken, since the table is searched from its longest token on.
-/

namespace TaskMail

structure Substitutions where
  entries : List (String × String)
  deriving Repr, DecidableEq, Inhabited

namespace Substitutions

def empty : Substitutions := ⟨[]⟩

def size (s : Substitutions) : Nat :=
  s.entries.length

def isEmpty (s : Substitutions) : Bool :=
  s.entries.isEmpty

/-- Puts a new token behind those that are as long, counted in octets. -/
def place (token value : String) : List (String × String) → List (String × String)
  | [] => [(token, value)]
  | e :: rest =>
    if token.utf8ByteSize ≤ e.1.utf8ByteSize then e :: place token value rest
    else (token, value) :: e :: rest

/-- Gives a token of the table a new value. -/
def overwrite (token value : String) (entries : List (String × String)) :
    List (String × String) :=
  entries.map fun e => if e.1 = token then (token, value) else e

def contains (s : Substitutions) (token : String) : Bool :=
  s.entries.any fun e => e.1 = token

/-- The empty token is ignored, and a token that the table has keeps its place. -/
def insert (s : Substitutions) (token value : String) : Substitutions :=
  if token = "" then s
  else if s.contains token then ⟨overwrite token value s.entries⟩
  else ⟨place token value s.entries⟩

def idToken : String := "#ID#"

def nameToken : String := "#NAME#"

def startTimeToken : String := "#START_TIME#"

def endTimeToken : String := "#END_TIME#"

def forTask (taskId : String) : Substitutions :=
  empty.insert idToken taskId

def withMetadata (s : Substitutions) (m : Metadata) : Substitutions :=
  ((s.insert nameToken m.name).insert startTimeToken m.startTime).insert endTimeToken m.endTime

/-! ## Building a table -/

inductive Edit where
  | clear
  | forTask (taskId : String)
  | insert (token value : String)
  | metadata (m : Metadata)
  deriving Repr, DecidableEq

def edit (s : Substitutions) : Edit → Substitutions
  | .clear => empty
  | .forTask taskId => forTask taskId
  | .insert token value => s.insert token value
  | .metadata m => s.withMetadata m

/-! ## Replacing -/

namespace Scan

/-- A table as the scan compares it with a text: by characters. -/
abbrev Table := List (List Char × List Char)

def tableOf (s : Substitutions) : Table :=
  s.entries.map fun e => (e.1.toList, e.2.toList)

/-- The value of the first token that begins the text, and the text behind that token. -/
def hit? : Table → List Char → Option (List Char × List Char)
  | [], _ => none
  | (token, value) :: table, text =>
    match token.isPrefixOf? text with
    | some rest => some (value, rest)
    | none => hit? table text

/-- What is emitted for the beginning of a text, and the text that is left. -/
def step (table : Table) (text : List Char) : List Char × List Char :=
  match hit? table text with
  | some hit => hit
  | none => (text.take 1, text.drop 1)

/-- At most `fuel` steps; `done` is what has been emitted, the latest first. -/
def run (table : Table) : Nat → List Char → List Char → List Char
  | _, done, [] => done.reverse
  | 0, done, _ :: _ => done.reverse
  | fuel + 1, done, c :: rest =>
    let next := step table (c :: rest)
    run table fuel (next.1.reverse ++ done) next.2

end Scan

/-- A step leaves less than it has found, so there are at most as many steps as characters. -/
def apply (s : Substitutions) (text : String) : String :=
  if s.isEmpty then text
  else String.ofList (Scan.run (Scan.tableOf s) text.toList.length [] text.toList)

/-! ## Showing a table -/

def entryText (e : String × String) : String :=
  "(" ++ Text.quote e.1 ++ ", " ++ Text.quote e.2 ++ ")"

def text (s : Substitutions) : String :=
  "Substitutions \x7b entries: [" ++ ", ".intercalate (s.entries.map entryText) ++ "] \x7d"

end Substitutions

end TaskMail
