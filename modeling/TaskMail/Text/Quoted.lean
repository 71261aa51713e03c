import TaskMail.Text.Unprintable

/-!
# TaskMail.Text.Quoted

Quoted text for messages: one line, in double quotes, in which every character can be seen.

* `escape` — how a character is written between the quotes.
* `quote`  — a text in quotes.
* `quoteList` — a list of texts, in brackets.
-/

namespace TaskMail.Text

/-- The digits of a number in base sixteen, in lower case. -/
def hexDigits (n : Nat) : List Char :=
  Nat.toDigits 16 n

/-- Quote, backslash, NUL, tab, line feed and carriage return have short forms, an unprintable
character is written as its code, and any other stands for itself. -/
def escape (c : Char) : List Char :=
  if c = '"' then ['\\', '"']
  else if c = '\\' then ['\\', '\\']
  else if c = '\x00' then ['\\', '0']
  else if c = '\t' then ['\\', 't']
  else if c = '\n' then ['\\', 'n']
  else if c = '\r' then ['\\', 'r']
  else if isUnprintable c then ['\\', 'u', '\x7b'] ++ hexDigits c.toNat ++ ['\x7d']
  else [c]

def quote (s : String) : String :=
  String.ofList ('"' :: s.toList.flatMap escape ++ ['"'])

def quoteList (xs : List String) : String :=
  "[" ++ ", ".intercalate (xs.map quote) ++ "]"

end TaskMail.Text
