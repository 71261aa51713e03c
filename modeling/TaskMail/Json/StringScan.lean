import TaskMail.Json.Fault
import TaskMail.Text.Utf8

/-!
# TaskMail.Json.StringScan

Reading strings, one octet at a time.

* `StringScan`      — what has been read of a string behind its opening quote.
* `StringScan.step` — reads an octet; the closing quote leads to `closed`.

The octets that a string stands for are kept, the latest first, and have to be UTF-8 when the
string is closed.
-/

namespace TaskMail.Json

inductive StringScan where
  | plain (done : Bytes)
  /-- Behind a backslash. -/
  | escape (done : Bytes)
  /-- Behind the `u` of an escape and fewer than four of its digits, the latest first; `high` is
  the first half of a surrogate pair. -/
  | code (done : Bytes) (high : Option Nat) (digits : Bytes)
  /-- Behind the first half of a surrogate pair. -/
  | pair (done : Bytes) (high : Nat)
  /-- Behind the first half of a surrogate pair and a backslash. -/
  | pairEscape (done : Bytes) (high : Nat)
  | closed (s : String)
  deriving Repr, DecidableEq

namespace StringScan

def hexValue? (b : UInt8) : Option Nat :=
  let n := b.toNat
  if 0x30 ≤ n ∧ n ≤ 0x39 then some (n - 0x30)
  else if 0x41 ≤ n ∧ n ≤ 0x46 then some (n - 0x41 + 10)
  else if 0x61 ≤ n ∧ n ≤ 0x66 then some (n - 0x61 + 10)
  else none

/-- The number that hexadecimal digits spell, the first digit first. -/
def hexNumber? (digits : Bytes) : Option Nat :=
  digits.foldl (fun n b => do return (← n) * 16 + (← hexValue? b)) (some 0)

/-- The octet for which a letter behind a backslash stands. -/
def shortEscape? (b : UInt8) : Option UInt8 :=
  if b = 0x22 ∨ b = 0x5C ∨ b = 0x2F then some b
  else if b = 0x62 then some 0x08
  else if b = 0x66 then some 0x0C
  else if b = 0x6E then some 0x0A
  else if b = 0x72 then some 0x0D
  else if b = 0x74 then some 0x09
  else none

def pushChar (done : Bytes) (n : Nat) : Bytes :=
  (String.utf8EncodeChar (Char.ofNat n)).reverse ++ done

/-- The string is closed: the octets must be UTF-8. -/
def close (done : Bytes) : Except Fault StringScan :=
  let octets := done.reverse
  match Utf8.decode? octets with
  | some s => .ok (.closed s)
  | none =>
    let valid := (Utf8.fault? octets).elim 0 (·.validUpTo)
    .error ⟨.invalidUnicode, .back (octets.length - valid)⟩

/-- A complete code of four digits. -/
def takeCode (done : Bytes) (high : Option Nat) (n : Nat) : Except Fault StringScan :=
  match high with
  | some h =>
    if 0xDC00 ≤ n ∧ n ≤ 0xDFFF then
      .ok (.plain (pushChar done (0x10000 + (h - 0xD800) * 0x400 + (n - 0xDC00))))
    else refuse .loneSurrogate
  | none =>
    if 0xDC00 ≤ n ∧ n ≤ 0xDFFF then refuse .loneSurrogate
    else if 0xD800 ≤ n ∧ n ≤ 0xDBFF then .ok (.pair done n)
    else .ok (.plain (pushChar done n))

def step (s : StringScan) (b : UInt8) : Except Fault StringScan :=
  match s with
  | .plain done =>
    if b = 0x22 then close done
    else if b = 0x5C then .ok (.escape done)
    else if b < 0x20 then refuse .controlCharacter
    else .ok (.plain (b :: done))
  | .escape done =>
    if b = 0x75 then .ok (.code done none [])
    else match shortEscape? b with
      | some c => .ok (.plain (c :: done))
      | none => refuse .invalidEscape
  | .code done high digits =>
    if digits.length < 3 then .ok (.code done high (b :: digits))
    else match hexNumber? (b :: digits).reverse with
      | some n => takeCode done high n
      | none => refuse .invalidEscape
  | .pair done high =>
    if b = 0x5C then .ok (.pairEscape done high) else refuse .unexpectedEndOfHexEscape
  | .pairEscape done high =>
    if b = 0x75 then .ok (.code done (some high) []) else refuse .unexpectedEndOfHexEscape
  | .closed s => .ok (.closed s)

end StringScan

end TaskMail.Json
