import TaskMail.Text.Line
import TaskMail.Text.Terminal
import TaskMail.Text.Utf8

/-!
# TaskMail.Arguments

The words of the command line.

* `Arguments`       — task, exit status and socket path.
* `ArgumentFault`   — what can be wrong with the words, and its text.
* `ArgumentReader`  — reads the words from left to right.
* `Arguments.read`  — the arguments that a list of words gives.

There are no options. A word that looks like one is refused, unless it stands behind `--` or is
a negative number where the exit status is due. Whether a word is text is checked when the next
one is taken, and at the end.
-/

namespace TaskMail

inductive ArgumentFault where
  /-- A word that has no place here, as far as it is shown. -/
  | unexpected (shown : String)
  | missing
  | notText
  deriving Repr, DecidableEq

/-- A fault is told in one line and without control sequences, so a word that contains a line
break is cut short. -/
def ArgumentFault.text : ArgumentFault → String
  | .unexpected shown =>
    Text.firstLine ("error: unexpected argument '" ++ Text.visible shown ++ "' found")
  | .missing => "error: the following required arguments were not provided:"
  | .notText => "error: invalid UTF-8 was detected in one or more arguments"

structure Arguments where
  taskId : String
  status : String
  socketPath : Option String
  deriving Repr, DecidableEq

/-! ## Numbers -/

def isAsciiDigit (b : UInt8) : Bool :=
  0x30 ≤ b && b ≤ 0x39

/-- Digits with at most one point, which is not the first. -/
def isDecimal (word : Bytes) : Bool :=
  match word with
  | [] => false
  | b :: rest =>
    isAsciiDigit b &&
      match rest.dropWhile isAsciiDigit with
      | [] => true
      | p :: fraction => p == 0x2E && fraction.all isAsciiDigit

def isExponentLetter (b : UInt8) : Bool :=
  b == 0x65 || b == 0x45

/-- A decimal, or a decimal with an exponent of one digit or more. -/
def isNumeric (word : Bytes) : Bool :=
  isDecimal (word.takeWhile fun b => !isExponentLetter b) &&
    match word.dropWhile fun b => !isExponentLetter b with
    | [] => true
    | _ :: exponent => !exponent.isEmpty && exponent.all isAsciiDigit

/-! ## Words -/

/-- The words that have been read. -/
structure ArgumentReader where
  /-- Behind `--` no word is taken for an option. -/
  escaped : Bool
  checked : List String
  /-- The latest value, not known to be text yet. -/
  pending : Option Bytes
  deriving Repr, DecidableEq

namespace ArgumentReader

def start : ArgumentReader := ⟨false, [], none⟩

def count (r : ArgumentReader) : Nat :=
  r.checked.length + (if r.pending.isSome then 1 else 0)

/-- The values so far, all of them text. -/
def values (r : ArgumentReader) : Except ArgumentFault (List String) :=
  match r.pending with
  | none => .ok r.checked
  | some word =>
    match Utf8.decode? word with
    | some s => .ok (r.checked ++ [s])
    | none => .error .notText

/-- There are places for three values. -/
def takeValue (r : ArgumentReader) (word : Bytes) : Except ArgumentFault ArgumentReader :=
  if r.count = 3 then .error (.unexpected (Utf8.decodeLossy word))
  else match r.values with
    | .ok checked => .ok ⟨r.escaped, checked, some word⟩
    | .error e => .error e

/-- A word that begins with two hyphens is shown up to its first equals sign. -/
def longShown (word : Bytes) : String :=
  Utf8.decodeLossy (word.takeWhile (· ≠ 0x3D))

/-- A word that begins with one hyphen is shown with the first character behind it, and whole if
no character can be read there. -/
def shortShown (rest : Bytes) : String :=
  match (Utf8.pieces rest).head? with
  | some (.char c) => String.ofList ['-', c]
  | _ => "-" ++ Utf8.decodeLossy rest

def step (r : ArgumentReader) (word : Bytes) : Except ArgumentFault ArgumentReader :=
  if r.escaped then r.takeValue word
  else match word with
    | [0x2D, 0x2D] => .ok { r with escaped := true }
    | 0x2D :: 0x2D :: _ => .error (.unexpected (longShown word))
    | 0x2D :: b :: rest =>
      if r.count = 1 ∧ isNumeric (b :: rest) then r.takeValue word
      else .error (.unexpected (shortShown (b :: rest)))
    | _ => r.takeValue word

def finish (r : ArgumentReader) : Except ArgumentFault Arguments :=
  match r.values with
  | .ok (taskId :: status :: rest) => .ok ⟨taskId, status, rest.head?⟩
  | .ok _ => .error .missing
  | .error e => .error e

end ArgumentReader

def Arguments.read (words : List Bytes) : Except ArgumentFault Arguments :=
  match words.foldlM ArgumentReader.step ArgumentReader.start with
  | .ok r => r.finish
  | .error e => .error e

end TaskMail
