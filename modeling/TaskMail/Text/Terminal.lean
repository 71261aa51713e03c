/-!
# TaskMail.Text.Terminal

What a terminal shows of a text: it obeys control characters and control sequences instead of
showing them.

* `Terminal`       — where in a control sequence a terminal stands.
* `Terminal.next`  — where it stands behind another character.
* `Terminal.shows` — whether it shows that character.
* `visible`        — the characters that it shows.

White space is shown in the middle of a control sequence too, and ends it, but for the strings
that ESC and one of the letters `P`, `X`, `]`, `^` and `_` begin.
-/

namespace TaskMail.Text

inductive Terminal where
  /-- Outside of control sequences. -/
  | ground
  /-- Behind the character ESC. -/
  | escape
  /-- Behind ESC and characters that are to be followed by a final one. -/
  | escapeTail
  /-- Behind ESC and an opening bracket. -/
  | control
  /-- Behind ESC and the letter `P`. -/
  | device
  /-- In the parameters of a device control string. -/
  | deviceParameter
  /-- Behind the parameters of a device control string. -/
  | deviceTail
  /-- In a string that the octet 0x9C ends. -/
  | string
  /-- In a string that the character BEL ends. -/
  | command
  deriving Repr, DecidableEq

namespace Terminal

/-- Whether the code of a character lies between two others. -/
def within (low high : Nat) (c : Char) : Bool :=
  low ≤ c.toNat && c.toNat ≤ high

/-- Tab, line feed, form feed and carriage return. -/
def isMotion (c : Char) : Bool :=
  c == '\t' || c == '\n' || c == '\x0c' || c == '\r'

/-- The octet that ends a string may be a part of a longer character. -/
def endsString (c : Char) : Bool :=
  (String.utf8EncodeChar c).contains 0x9C

/-- Where the second character of a sequence leads. -/
def ofSecond (c : Char) : Terminal :=
  if c = '[' then .control
  else if c = ']' then .command
  else if c = 'P' then .device
  else if c = 'X' ∨ c = '^' ∨ c = '_' then .string
  else if within 0x20 0x2F c then .escapeTail
  else if within 0x30 0x7E c then .ground
  else .escape

/-- Where a character leads that begins no sequence and breaks none off. -/
def follow (t : Terminal) (c : Char) : Terminal :=
  match t with
  | .ground => .ground
  | .escape => if isMotion c then .ground else ofSecond c
  | .escapeTail => if isMotion c || within 0x30 0x7E c then .ground else .escapeTail
  | .control => if isMotion c || within 0x40 0x7E c then .ground else .control
  | .device =>
    if within 0x20 0x2F c then .deviceTail
    else if within 0x30 0x3F c then .deviceParameter
    else if within 0x40 0x7E c then .string
    else .device
  | .deviceParameter =>
    if within 0x20 0x2F c then .deviceTail
    else if within 0x3C 0x7E c then .string
    else .deviceParameter
  | .deviceTail => if within 0x30 0x7E c then .string else .deviceTail
  | .string => if endsString c then .ground else .string
  | .command => if c = '\x07' then .ground else .command

/-- ESC begins a sequence, and CAN and SUB break one off, wherever they stand. -/
def next (t : Terminal) (c : Char) : Terminal :=
  if c = '\x1b' then .escape
  else if c = '\x18' ∨ c = '\x1a' then .ground
  else t.follow c

/-- Outside of sequences every character is shown but for the control characters of ASCII that are
not white space. -/
def shows (t : Terminal) (c : Char) : Bool :=
  match t with
  | .ground => isMotion c || (0x20 ≤ c.toNat && c != '\x7f')
  | .escape | .escapeTail | .control => isMotion c
  | .device | .deviceParameter | .deviceTail | .string | .command => false

/-- The characters that a terminal shows, from where it stands. -/
def shown (t : Terminal) : List Char → List Char
  | [] => []
  | c :: cs => if t.shows c then c :: (t.next c).shown cs else (t.next c).shown cs

end Terminal

def visible (s : String) : String :=
  String.ofList (Terminal.ground.shown s.toList)

end TaskMail.Text
