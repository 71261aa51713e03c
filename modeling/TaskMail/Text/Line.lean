/-!
# TaskMail.Text.Line

The lines of a text. A line ends with a line feed, which a carriage return may precede; the last
one may lack its end.

* `lines`     — the lines, without their ends.
* `firstLine` — the first of them.
-/

namespace TaskMail.Text

/-- A line without the carriage return at its end, the latest character first. -/
def dropReturn : List Char → List Char
  | '\r' :: held => held
  | held => held

/-- The lines of a text of which some characters of the first line are read, the latest first. -/
def linesFrom (held : List Char) : List Char → List String
  | [] => if held.isEmpty then [] else [String.ofList held.reverse]
  | c :: cs =>
    if c = '\n' then String.ofList (dropReturn held).reverse :: linesFrom [] cs
    else linesFrom (c :: held) cs

def lines (s : String) : List String :=
  linesFrom [] s.toList

def firstLine (s : String) : String :=
  (lines s).headD ""

end TaskMail.Text
