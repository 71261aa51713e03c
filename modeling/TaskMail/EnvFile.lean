import TaskMail.Environment
import TaskMail.Text.Alphanumeric
import TaskMail.Text.Blank

/-!
# TaskMail.EnvFile

Files of variable assignments, one on a line.

* `ValueScan`     — reads a value: quotes, escapes, references to variables.
* `EnvFile.Line`  — what a line says, and `EnvFile.lineOf`, which reads it.
* `EnvFile.lines` — the lines of a file; a quoted value may go on behind a line feed.
* `EnvFile.apply` — the environment behind a file: variables that are set already keep their
  values, and the first bad line ends the reading. A value that the system does not take is no bad
  line: it breaks off the program that reads the file.
-/

namespace TaskMail

/-! ## Values -/

/-- Where in a value the reading stands. -/
inductive ValuePhase where
  | plain
  /-- Inside of single quotes, where every character stands for itself. -/
  | strong
  /-- Behind a backslash. -/
  | escape
  /-- Behind a dollar sign and a part of a name, the latest character first. -/
  | reference (name : List Char)
  /-- Behind a dollar sign, a brace and a part of a name. -/
  | braced (name : List Char)
  /-- Behind the value, where blanks and a comment may stand. -/
  | ended
  | comment
  deriving Repr, DecidableEq

structure ValueScan where
  phase : ValuePhase
  /-- Inside of double quotes. -/
  weak : Bool
  /-- The value so far, the latest character first. -/
  done : List Char
  deriving Repr, DecidableEq

namespace ValueScan

def start : ValueScan := ⟨.plain, false, []⟩

def push (s : ValueScan) (c : Char) : ValueScan :=
  { s with done := c :: s.done }

def goto (s : ValueScan) (phase : ValuePhase) : ValueScan :=
  { s with phase := phase }

/-- Puts in the value of the variable whose name has been read. -/
def putIn (lookup : String → String) (s : ValueScan) (name : List Char) : ValueScan :=
  { s with done := (lookup (String.ofList name.reverse)).toList.reverse ++ s.done }

def isGap (c : Char) : Bool :=
  c == ' ' || c == '\t'

def isEscapable (c : Char) : Bool :=
  c == '\\' || c == '\'' || c == '"' || c == '$' || c == ' '

/-- A character outside of quotes or inside of double quotes. -/
def takePlain (s : ValueScan) (c : Char) : ValueScan :=
  if c = '$' then s.goto (.reference [])
  else if c = '"' then { s with weak := !s.weak }
  else if c = '\\' then s.goto .escape
  else if s.weak then s.push c
  else if c = '\'' then s.goto .strong
  else if isGap c then s.goto .ended
  else s.push c

/-- The next character; `none` when the value is bad. The character that ends the name of a
variable stands for itself, whatever it is, unless it begins another reference. -/
def step (lookup : String → String) (s : ValueScan) (c : Char) : Option ValueScan :=
  match s.phase with
  | .plain => some (s.takePlain c)
  | .strong => some (if c = '\'' then s.goto .plain else s.push c)
  | .escape =>
    if isEscapable c then some ((s.push c).goto .plain)
    else if c = 'n' then some ((s.push '\n').goto .plain)
    else none
  | .reference name =>
    if Text.isAlphanumeric c then some (s.goto (.reference (c :: name)))
    else if c = '\x7b' ∧ name = [] then some (s.goto (.braced []))
    else if c = '$' then some ((s.putIn lookup name).goto (.reference []))
    else some (((s.putIn lookup name).push c).goto .plain)
  | .braced name =>
    if c = '\x7d' then some ((s.putIn lookup name).goto .plain)
    else some (s.goto (.braced (c :: name)))
  | .ended =>
    if isGap c then some s else if c = '#' then some (s.goto .comment) else none
  | .comment => some s

/-- The value, when nothing is open at the end of the line. A backslash there says nothing. -/
def finish (lookup : String → String) (s : ValueScan) : Option String :=
  if s.weak then none
  else match s.phase with
    | .strong | .braced _ => none
    | .reference name => some (String.ofList (s.putIn lookup name).done.reverse)
    | .plain | .escape | .ended | .comment => some (String.ofList s.done.reverse)

end ValueScan

namespace EnvFile

def valueOf (lookup : String → String) (cs : List Char) : Option String :=
  (cs.foldlM (ValueScan.step lookup) ValueScan.start).bind (ValueScan.finish lookup)

/-! ## Lines -/

inductive Line where
  | blank
  | assignment (name value : String)
  | bad
  deriving Repr, DecidableEq

def isNameStart (c : Char) : Bool :=
  c.isAlpha || c == '_'

def isNameChar (c : Char) : Bool :=
  c.isAlphanum || c == '_' || c == '.'

/-- A name, and what stands behind it and the white space that follows. -/
def nameOf? (cs : List Char) : Option (String × List Char) :=
  match cs with
  | [] => none
  | c :: rest =>
    if isNameStart c then
      some (String.ofList (c :: rest.takeWhile isNameChar),
        Text.trimStart (rest.dropWhile isNameChar))
    else none

/-- The value behind an equals sign. -/
def assignmentOf (lookup : String → String) (name : String) (cs : List Char) : Line :=
  match Text.trimStart cs with
  | [] => .assignment name ""
  | c :: rest =>
    if c = '#' then .assignment name ""
    else match valueOf lookup (c :: rest) with
      | some value => .assignment name value
      | none => .bad

/-- The word `export` may stand before a name, and is itself a name before an equals sign. -/
def lineOf (lookup : String → String) (line : String) : Line :=
  match Text.trimStart (Text.trimEnd line.toList) with
  | [] => .blank
  | cs =>
    match nameOf? cs with
    | none => .bad
    | some (name, '=' :: rest) => assignmentOf lookup name rest
    | some (name, rest) =>
      if name = "export" then
        match nameOf? rest with
        | some (name', '=' :: rest') => assignmentOf lookup name' rest'
        | _ => .bad
      else .bad

/-! ## Files -/

/-- Where in a file its division into lines stands. -/
inductive Division where
  /-- In front of a line, or behind the white space at its beginning. -/
  | start
  | plain
  /-- Behind a blank, or behind an odd number of them. -/
  | gap
  /-- Behind a backslash. -/
  | escape
  /-- Inside of single quotes. -/
  | strong
  | strongEscape
  /-- Inside of double quotes. -/
  | weak
  | weakEscape
  | comment
  deriving Repr, DecidableEq

namespace Division

/-- Where a character leads that may open something. -/
def opened (c : Char) : Division :=
  if c = '\\' then .escape
  else if c = '"' then .weak
  else if c = '\'' then .strong
  else .plain

/-- Where a character leads that ends no line. Of a quote a backslash hides the end, be it single
or double. -/
def next (d : Division) (c : Char) : Division :=
  match d with
  | .start => if Text.isBlank c then .start else opened c
  | .plain => if Text.isBlank c && c != '\r' then .gap else opened c
  | .gap => opened c
  | .escape => .plain
  | .strong => if c = '\\' then .strongEscape else if c = '\'' then .plain else .strong
  | .strongEscape => .strong
  | .weak => if c = '\\' then .weakEscape else if c = '"' then .plain else .weak
  | .weakEscape => .weak
  | .comment => .comment

/-- Whether a character ends a line: a line feed outside of quotes, or a number sign that begins a
comment. -/
def endsAt (d : Division) (c : Char) : Bool :=
  match d with
  | .start | .gap => c == '\n' || c == '#'
  | .plain | .escape | .comment => c == '\n'
  | .strong | .strongEscape | .weak | .weakEscape => false

/-- Whether there is a line that could end here. -/
def inLine (d : Division) : Bool :=
  match d with
  | .start | .comment => false
  | _ => true

end Division

/-- The lines of a file of which some characters are read, those of the line under way held with
the latest first. At the end of the file a line counts only if nothing is open, not even a gap. -/
def linesFrom (d : Division) (held : List Char) : List Char → List String
  | [] => if d = .plain then [String.ofList held.reverse] else []
  | c :: cs =>
    if d.endsAt c then
      let rest := linesFrom (if c = '\n' then .start else .comment) [] cs
      if d.inLine then String.ofList held.reverse :: rest else rest
    else linesFrom (d.next c) (c :: held) cs

def valueIn (e : Environment) (name : String) : String :=
  (e.text? name).getD ""

/-- The environment behind some lines; `none` when a variable cannot be set. -/
def applyLines (e : Environment) : List String → Option Environment
  | [] => some e
  | line :: rest =>
    match lineOf (valueIn e) line with
    | .blank => applyLines e rest
    | .assignment name value => (e.setDefault name value).bind fun e' => applyLines e' rest
    | .bad => some e

/-- A mark of the byte order in front of the text does not count. -/
def withoutMark (s : String) : String :=
  match s.toList with
  | c :: rest => if c = '\uFEFF' then String.ofList rest else s
  | [] => s

def lines (text : String) : List String :=
  linesFrom .start [] (withoutMark text).toList

def apply (e : Environment) (text : String) : Option Environment :=
  applyLines e (lines text)

end EnvFile

end TaskMail
