/-!
# TaskMail.Text.Blank

White space, as the Unicode property `White_Space` has it.

* `isBlank`   — membership in the property.
* `trim`      — a text without the blanks at its two ends.
* `trimStart`, `trimEnd` — the same at one end of a list of characters.
-/

namespace TaskMail.Text

def isBlank (c : Char) : Bool :=
  let n := c.toNat
  (9 ≤ n && n ≤ 13) || n == 0x20 || n == 0x85 || n == 0xA0 || n == 0x1680 ||
    (0x2000 ≤ n && n ≤ 0x200A) || n == 0x2028 || n == 0x2029 || n == 0x202F || n == 0x205F ||
    n == 0x3000

def trimStart (cs : List Char) : List Char :=
  cs.dropWhile isBlank

def trimEnd (cs : List Char) : List Char :=
  (cs.reverse.dropWhile isBlank).reverse

def trim (s : String) : String :=
  String.ofList (trimEnd (trimStart s.toList))

/-- Nothing is left of a blank text when it is trimmed. -/
def allBlank (s : String) : Bool :=
  s.toList.all isBlank

end TaskMail.Text
