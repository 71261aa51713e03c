import TaskMail.Decimal.Shortest
import TaskMail.Json.Value

/-!
# TaskMail.Json.Printer

Writing a value on one line, without spaces.

* `Number.text`  — whole numbers in full, doubles by their shortest digits.
* `escape`       — how a character is written inside of a string.
* `Value.text`   — the text of a value; an object shows the members that count, in the order of
  their keys.
-/

namespace TaskMail.Json

/-- Decimal digits of a double: positional from `10 ^ -5` to below `10 ^ 16`, and otherwise one
digit before the point and an exponent with its sign. -/
def decimalText (d : Decimal) : String :=
  let digits := (toString d.digits).toList
  let x := d.exponent + digits.length - 1
  if x < -5 ∨ 15 < x then
    let point := if digits.length ≤ 1 then digits else digits.take 1 ++ '.' :: digits.drop 1
    String.ofList point ++ (if x < 0 then "e-" else "e+") ++ toString x.natAbs
  else if x < 0 then
    String.ofList ("0.".toList ++ List.replicate (x.natAbs - 1) '0' ++ digits)
  else
    let whole := x.toNat + 1
    if digits.length ≤ whole then
      String.ofList (digits ++ List.replicate (whole - digits.length) '0' ++ ".0".toList)
    else String.ofList (digits.take whole ++ '.' :: digits.drop whole)

def floatText (x : Float) : String :=
  let bits := x.toBits.toNat
  let sign := if 0x8000000000000000 ≤ bits then "-" else ""
  let b := Decimal.Binary.ofBits (bits % 0x8000000000000000)
  if b.significand = 0 then sign ++ "0.0" else sign ++ decimalText (Decimal.shortest b)

def Number.text : Number → String
  | .integer n => toString n
  | .float x => floatText x

/-- The two digits of a control character. -/
def controlDigits (n : Nat) : List Char :=
  [Nat.digitChar (n / 16), Nat.digitChar (n % 16)]

/-- Quote, backslash and the control characters are escaped, and nothing else. -/
def escape (c : Char) : List Char :=
  if c = '"' then ['\\', '"']
  else if c = '\\' then ['\\', '\\']
  else if c = '\x08' then ['\\', 'b']
  else if c = '\x0c' then ['\\', 'f']
  else if c = '\n' then ['\\', 'n']
  else if c = '\r' then ['\\', 'r']
  else if c = '\t' then ['\\', 't']
  else if c.toNat < 0x20 then ['\\', 'u', '0', '0'] ++ controlDigits c.toNat
  else [c]

def stringText (s : String) : String :=
  String.ofList ('"' :: s.toList.flatMap escape ++ ['"'])

def memberText (m : String × String) : String :=
  stringText m.1 ++ ":" ++ m.2

def Value.text : Value → String
  | .null => "null"
  | .bool b => if b then "true" else "false"
  | .number n => n.text
  | .string s => stringText s
  | .array items => "[" ++ ",".intercalate (items.map Value.text) ++ "]"
  | .object members =>
    "\x7b" ++
      ",".intercalate
        ((Members.settled (members.map fun m => (m.1, m.2.text))).map memberText) ++
      "\x7d"
termination_by v => sizeOf v
decreasing_by
  · rename_i h
    have := List.sizeOf_lt_of_mem h
    simp only [Value.array.sizeOf_spec]
    omega
  · rename_i h
    have := List.sizeOf_lt_of_mem h
    have : sizeOf m = 1 + sizeOf m.1 + sizeOf m.2 := rfl
    simp only [Value.object.sizeOf_spec]
    omega

end TaskMail.Json
