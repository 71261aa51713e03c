/-!
# TaskMail.Json.Fault

What can be wrong with a JSON text, and where.

* `Cause`       — the rules that a text can break; `Cause.text` says which.
* `Position`    — lines and columns, counted in octets.
* `Place`       — where a cause is reported, seen from the octet that shows it.
* `SyntaxError` — a cause at a position; `SyntaxError.text` is the message.
-/

namespace TaskMail.Json

inductive Cause where
  | eofInList
  | eofInObject
  | eofInString
  | eofInValue
  | expectedColon
  | expectedListCommaOrEnd
  | expectedObjectCommaOrEnd
  | expectedIdent
  | expectedValue
  | invalidEscape
  | invalidNumber
  | numberOutOfRange
  | invalidUnicode
  | controlCharacter
  | keyMustBeString
  | loneSurrogate
  | trailingComma
  | trailingCharacters
  | unexpectedEndOfHexEscape
  | recursionLimit
  deriving Repr, DecidableEq

def Cause.text : Cause → String
  | .eofInList => "EOF while parsing a list"
  | .eofInObject => "EOF while parsing an object"
  | .eofInString => "EOF while parsing a string"
  | .eofInValue => "EOF while parsing a value"
  | .expectedColon => "expected `:`"
  | .expectedListCommaOrEnd => "expected `,` or `]`"
  | .expectedObjectCommaOrEnd => "expected `,` or `\x7d`"
  | .expectedIdent => "expected ident"
  | .expectedValue => "expected value"
  | .invalidEscape => "invalid escape"
  | .invalidNumber => "invalid number"
  | .numberOutOfRange => "number out of range"
  | .invalidUnicode => "invalid unicode code point"
  | .controlCharacter =>
    "control character (\\u0000-\\u001F) found while parsing a string"
  | .keyMustBeString => "key must be a string"
  | .loneSurrogate => "lone leading surrogate in hex escape"
  | .trailingComma => "trailing comma"
  | .trailingCharacters => "trailing characters"
  | .unexpectedEndOfHexEscape => "unexpected end of hex escape"
  | .recursionLimit => "recursion limit exceeded"

/-- The place behind some octets: the line it is on, from one, and the octets before it on that
line. -/
structure Position where
  line : Nat
  column : Nat
  deriving Repr, DecidableEq

namespace Position

def start : Position := ⟨1, 0⟩

def advance (p : Position) (b : UInt8) : Position :=
  if b = 0x0A then ⟨p.line + 1, 0⟩ else ⟨p.line, p.column + 1⟩

def back (p : Position) (n : Nat) : Position :=
  ⟨p.line, p.column - n⟩

end Position

/-- Where a cause is reported, seen from the octet that shows it. -/
inductive Place where
  | before
  | behind
  /-- Behind the octet, but so many columns further left. -/
  | back (columns : Nat)
  deriving Repr, DecidableEq

structure Fault where
  cause : Cause
  place : Place
  deriving Repr, DecidableEq

structure SyntaxError where
  cause : Cause
  position : Position
  deriving Repr, DecidableEq

def SyntaxError.text (e : SyntaxError) : String :=
  e.cause.text ++ " at line " ++ toString e.position.line ++
    " column " ++ toString e.position.column

/-- A fault that the octet `b` shows, where `p` is the position before it. -/
def Fault.atOctet (f : Fault) (p : Position) (b : UInt8) : SyntaxError :=
  match f.place with
  | .before => ⟨f.cause, p⟩
  | .behind => ⟨f.cause, p.advance b⟩
  | .back n => ⟨f.cause, (p.advance b).back n⟩

/-- The refusal of an octet, reported behind it. -/
def refuse {α : Type} (cause : Cause) : Except Fault α :=
  .error ⟨cause, .behind⟩

end TaskMail.Json
