/-!
# TaskMail.Xml.Reference

References in attribute values.

* `named`    — the five characters that have a name.
* `escape`   — a text with those characters written by name.
* `resolve`  — the character that a reference stands for.
* `unescape` — a value with its references resolved, in one pass from left to right.
-/

namespace TaskMail.Xml

/-- The characters that are written by name, and their names. -/
def named : List (Char × String) :=
  [('<', "lt"), ('>', "gt"), ('&', "amp"), ('\'', "apos"), ('"', "quot")]

def escapeChar (c : Char) : List Char :=
  match named.lookup c with
  | some name => '&' :: name.toList ++ [';']
  | none => [c]

def escape (s : String) : String :=
  String.ofList (s.toList.flatMap escapeChar)

/-- What can be wrong with a code reference. -/
inductive CodeFault where
  | signed
  | empty
  | badDigit
  | tooLarge
  | nul
  | notScalar (code : Nat)
  deriving Repr, DecidableEq

def CodeFault.text : CodeFault → String
  | .signed => "unexpected number sign"
  | .empty => "cannot parse integer from empty string"
  | .badDigit => "invalid digit found in string"
  | .tooLarge => "number too large to fit in target type"
  | .nul => "0x0 character is not permitted in XML"
  | .notScalar code => "`" ++ toString code ++ "` is not a valid codepoint"

/-- What can be wrong with a reference. Positions count the octets of the value. -/
inductive ReferenceFault where
  /-- No semicolon behind the ampersand at `start`; the value has `size` octets. -/
  | unclosed (start size : Nat)
  | code (fault : CodeFault)
  /-- A name that stands for nothing, between `start` and `stop`. -/
  | unknown (start stop : Nat) (name : String)
  deriving Repr, DecidableEq

def ReferenceFault.text : ReferenceFault → String
  | .unclosed start size =>
    "Error while escaping character at range " ++ toString start ++ ".." ++ toString size ++
      ": Cannot find ';' after '&'"
  | .code fault => "invalid character reference: " ++ fault.text
  | .unknown start stop name =>
    "at " ++ toString start ++ ".." ++ toString stop ++ ": unrecognized entity `" ++ name ++ "`"

/-! ## One reference -/

def digitValue? (radix : Nat) (c : Char) : Option Nat :=
  let n := c.toNat
  let d :=
    if 0x30 ≤ n ∧ n ≤ 0x39 then n - 0x30
    else if 0x41 ≤ n ∧ n ≤ 0x5A then n - 0x41 + 10
    else if 0x61 ≤ n ∧ n ≤ 0x7A then n - 0x61 + 10
    else radix
  if d < radix then some d else none

/-- One more digit of a code, which has to stay below 2^32. -/
def takeDigit (radix code : Nat) (c : Char) : Except CodeFault Nat :=
  match digitValue? radix c with
  | none => .error .badDigit
  | some d => if code * radix + d < 0x100000000 then .ok (code * radix + d) else .error .tooLarge

def codeOf (radix : Nat) (digits : List Char) : Except CodeFault Nat :=
  match digits with
  | [] => .error .empty
  | c :: _ =>
    if c = '+' ∨ c = '-' then .error .signed else digits.foldlM (takeDigit radix) 0

def charOf (code : Nat) : Except CodeFault Char :=
  if code = 0 then .error .nul
  else if code.isValidChar then .ok (Char.ofNat code)
  else .error (.notScalar code)

/-- The character of a code reference, given what stands behind the number sign. -/
def resolveCode (digits : List Char) : Except CodeFault Char :=
  match digits with
  | 'x' :: hex => codeOf 16 hex >>= charOf
  | _ => codeOf 10 digits >>= charOf

/-- The character of the reference whose ampersand is at `start` and whose semicolon at `stop`,
given what stands between them. -/
def resolve (start stop : Nat) (name : List Char) : Except ReferenceFault Char :=
  match name with
  | '#' :: digits => (resolveCode digits).mapError .code
  | _ =>
    match named.find? fun entry => entry.2.toList == name with
    | some entry => .ok entry.1
    | none => .error (.unknown (start + 1) stop (String.ofList name))

/-! ## A whole value -/

/-- A value of which the first `position` octets are read. -/
structure Unescape where
  position : Nat
  /-- The characters so far, the latest first. -/
  done : List Char
  /-- The position of an ampersand and what stands behind it, the latest first. -/
  pending : Option (Nat × List Char)
  deriving Repr, DecidableEq

namespace Unescape

def start : Unescape := ⟨0, [], none⟩

/-- The next character of a value of `size` octets. -/
def step (size : Nat) (u : Unescape) (c : Char) : Except ReferenceFault Unescape :=
  let position := u.position + c.utf8Size
  match u.pending with
  | none =>
    if c = '&' then .ok ⟨position, u.done, some (u.position, [])⟩
    else .ok ⟨position, c :: u.done, none⟩
  | some (start, name) =>
    if c = ';' then
      match resolve start u.position name.reverse with
      | .ok d => .ok ⟨position, d :: u.done, none⟩
      | .error e => .error e
    else if c = '&' then .error (.unclosed start size)
    else .ok ⟨position, u.done, some (start, c :: name)⟩

def finish (size : Nat) (u : Unescape) : Except ReferenceFault String :=
  match u.pending with
  | none => .ok (String.ofList u.done.reverse)
  | some (start, _) => .error (.unclosed start size)

end Unescape

def unescape (s : String) : Except ReferenceFault String :=
  match s.toList.foldlM (Unescape.step s.utf8ByteSize) Unescape.start with
  | .ok u => u.finish s.utf8ByteSize
  | .error e => .error e

end TaskMail.Xml
