import TaskMail.Log.Event

/-!
# TaskMail.Log.Filter

Which records the log keeps.

* `Directive`    — a level for the targets that begin with a text, or for all of them.
* `Filter.read?` — directives between commas.
* `Filter.keeps` — whether a record is kept: the directive with the longest target decides.
-/

namespace TaskMail.Log

/-- Records up to a rank are kept; rank zero keeps none. -/
structure Directive where
  target : String
  rank : Nat
  deriving Repr, DecidableEq

namespace Directive

def rank? (name : String) : Option Nat :=
  let s := String.ofList (name.toList.map Char.toLower)
  if s = "off" then some 0
  else if s = "error" then some 1
  else if s = "warn" then some 2
  else if s = "info" then some 3
  else if s = "debug" then some 4
  else if s = "trace" then some 5
  else none

/-- A level for all targets, a target with a level, or a target alone, of which every record is
kept. -/
def read? (s : String) : Option Directive :=
  match s.splitOn "=" with
  | [one] =>
    match rank? one with
    | some rank => some ⟨"", rank⟩
    | none => some ⟨one, 5⟩
  | [target, level] => (rank? level).map fun rank => ⟨target, rank⟩
  | _ => none

def applies (d : Directive) (target : String) : Bool :=
  d.target.toList.isPrefixOf target.toList

end Directive

structure Filter where
  directives : List Directive
  deriving Repr, DecidableEq

namespace Filter

def standard : Filter := ⟨[⟨"", 3⟩]⟩

/-- Nothing between two commas says nothing. -/
def read? (s : String) : Option Filter :=
  (((s.splitOn ",").filter (· ≠ "")).mapM Directive.read?).map Filter.mk

/-- What is not set or cannot be read keeps the information, the warnings and the errors. -/
def ofVariable (value : Option String) : Filter :=
  ((value.bind read?)).getD standard

/-- The directive that decides on a target: the one with the longest target of its own, and of
those the last. -/
def deciding? (f : Filter) (target : String) : Option Directive :=
  (f.directives.filter (·.applies target)).foldl
    (fun best d =>
      match best with
      | none => some d
      | some b => if b.target.utf8ByteSize ≤ d.target.utf8ByteSize then some d else some b)
    none

def keeps (f : Filter) (r : Record) : Bool :=
  match f.deciding? r.target with
  | some d => r.level.rank ≤ d.rank
  | none => false

end Filter

end TaskMail.Log
