import TaskMail.Text.Utf8

/-!
# TaskMail.Text.Segments

Octet strings that a separator divides.

* `segments` — the stretches between separators, one more than there are separators.
* `joined`   — stretches with a separator between any two.
-/

namespace TaskMail.Text

def segments (separator : UInt8) : Bytes → List Bytes
  | [] => [[]]
  | b :: rest =>
    if b = separator then [] :: segments separator rest
    else (segments separator rest).modifyHead (b :: ·)

def joined (separator : UInt8) : List Bytes → Bytes
  | [] => []
  | [s] => s
  | s :: t :: rest => s ++ separator :: joined separator (t :: rest)

end TaskMail.Text
