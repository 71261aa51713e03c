import TaskMail.Json.Fault
import TaskMail.Json.Value

/-!
# TaskMail.Json.Number

Reading numbers, one octet at a time.

* `Magnitude`       — the digits of a number as a significand of 64 bits and a power of ten.
* `Magnitude.value` — its double: the significand times or divided by powers of ten.
* `NumberScan`      — what has been read of a number.
* `NumberScan.step` — reads an octet; `none` means that the number ends before it.
* `NumberScan.finish` — the number.

A significand takes digits as long as it stays below 2^64. Digits that find no place any more
raise the exponent in front of the point and are dropped behind it.
-/

namespace TaskMail.Json

def isDigit (b : UInt8) : Bool :=
  0x30 ≤ b && b ≤ 0x39

def digitValue (b : UInt8) : Nat :=
  b.toNat - 0x30

structure Magnitude where
  negative : Bool
  significand : Nat
  scale : Int
  deriving Repr, DecidableEq

namespace Magnitude

def fits (m : Magnitude) (d : Nat) : Bool :=
  m.significand * 10 + d < 0x10000000000000000

def push (m : Magnitude) (d : Nat) : Magnitude :=
  { m with significand := m.significand * 10 + d }

def shift (m : Magnitude) (by_ : Int) : Magnitude :=
  { m with scale := m.scale + by_ }

/-- The double next to `10 ^ k`. -/
def power (k : Nat) : Float :=
  Float.ofScientific 1 false k

/-- The double for `x * 10 ^ e`, in steps of at most 308 powers; there is none when that is too
large. -/
def scaled (x : Float) (e : Int) : Option Float :=
  if e.natAbs ≤ 308 then
    if 0 ≤ e then
      let y := x * power e.toNat
      if y.isInf then none else some y
    else some (x / power e.natAbs)
  else if x == 0 then some x
  else if 0 ≤ e then none
  else scaled (x / power 308) (e + 308)
termination_by e.natAbs
decreasing_by omega

def value (m : Magnitude) : Except Fault Number :=
  match scaled m.significand.toUInt64.toFloat m.scale with
  | none => .error ⟨.numberOutOfRange, .before⟩
  | some x => .ok (.float (if m.negative then -x else x))

/-- A number without point and exponent. Negative zero and what is below `-2 ^ 63` are
doubles. -/
def integer (m : Magnitude) : Except Fault Number :=
  if !m.negative then .ok (.integer m.significand)
  else if 0 < m.significand ∧ m.significand ≤ 0x8000000000000000 then
    .ok (.integer (-m.significand))
  else m.value

/-- Exponents are kept within 32 bits. -/
def withExponent (m : Magnitude) (negative : Bool) (exponent : Nat) : Magnitude :=
  let e := if negative then m.scale - exponent else m.scale + exponent
  { m with scale := max (-0x80000000) (min 0x7FFFFFFF e) }

end Magnitude

/-- What has been read of a number. -/
inductive NumberScan where
  /-- The minus sign. -/
  | minus
  /-- A zero that no digit may follow. -/
  | zero (m : Magnitude)
  | integer (m : Magnitude)
  /-- An integer part of which digits are dropped. -/
  | long (m : Magnitude)
  /-- The point, behind which a digit is due. -/
  | point (m : Magnitude)
  | fraction (m : Magnitude)
  /-- A fraction of which digits are dropped. -/
  | longFraction (m : Magnitude)
  /-- The letter of the exponent. -/
  | mark (m : Magnitude)
  /-- The letter and the sign of the exponent. -/
  | sign (m : Magnitude) (negative : Bool)
  | exponent (m : Magnitude) (negative : Bool) (e : Nat)
  /-- An exponent beyond 32 bits that makes the number zero. -/
  | vanished (negative : Bool)
  deriving Repr, DecidableEq

namespace NumberScan

/-- The scan behind the first octet, a digit. -/
def ofDigit (negative : Bool) (b : UInt8) : NumberScan :=
  if b = 0x30 then .zero ⟨negative, 0, 0⟩ else .integer ⟨negative, digitValue b, 0⟩

def isExponentMark (b : UInt8) : Bool :=
  b == 0x65 || b == 0x45

/-- Behind the digits of an integer part. -/
def afterInteger (m : Magnitude) (b : UInt8) : Option NumberScan :=
  if b = 0x2E then some (.point m)
  else if isExponentMark b then some (.mark m)
  else none

/-- Behind the digits of a fraction. -/
def afterFraction (m : Magnitude) (b : UInt8) : Option NumberScan :=
  if isExponentMark b then some (.mark m) else none

/-- A digit of the fraction. -/
def takeFraction (m : Magnitude) (b : UInt8) : NumberScan :=
  if m.fits (digitValue b) then .fraction ((m.push (digitValue b)).shift (-1))
  else .longFraction m

/-- A digit of the exponent, behind those that make `e`. -/
def takeExponent (m : Magnitude) (negative : Bool) (e : Nat) (b : UInt8) :
    Except Fault NumberScan :=
  let e' := e * 10 + digitValue b
  if e' < 0x80000000 then .ok (.exponent m negative e')
  else if m.significand ≠ 0 ∧ !negative then refuse .numberOutOfRange
  else .ok (.vanished m.negative)

/-- The next octet of a number; `none` when the number ends before it. -/
def step (s : NumberScan) (b : UInt8) : Except Fault (Option NumberScan) :=
  match s with
  | .minus => if isDigit b then .ok (some (ofDigit true b)) else refuse .invalidNumber
  | .zero m => if isDigit b then refuse .invalidNumber else .ok (afterInteger m b)
  | .integer m =>
    if isDigit b then
      if m.fits (digitValue b) then .ok (some (.integer (m.push (digitValue b))))
      else .ok (some (.long (m.shift 1)))
    else .ok (afterInteger m b)
  | .long m => if isDigit b then .ok (some (.long (m.shift 1))) else .ok (afterInteger m b)
  | .point m => if isDigit b then .ok (some (takeFraction m b)) else refuse .invalidNumber
  | .fraction m => if isDigit b then .ok (some (takeFraction m b)) else .ok (afterFraction m b)
  | .longFraction m =>
    if isDigit b then .ok (some (.longFraction m)) else .ok (afterFraction m b)
  | .mark m =>
    if b = 0x2B then .ok (some (.sign m false))
    else if b = 0x2D then .ok (some (.sign m true))
    else if isDigit b then (takeExponent m false 0 b).map some
    else refuse .invalidNumber
  | .sign m negative =>
    if isDigit b then (takeExponent m negative 0 b).map some else refuse .invalidNumber
  | .exponent m negative e =>
    if isDigit b then (takeExponent m negative e b).map some else .ok none
  | .vanished negative => if isDigit b then .ok (some (.vanished negative)) else .ok none

/-- The number that has been read; the fault lies before the octet that follows, or at the end
of the text. -/
def finish (s : NumberScan) : Except Fault Number :=
  match s with
  | .minus | .point _ | .mark _ | .sign _ _ => .error ⟨.eofInValue, .before⟩
  | .zero m | .integer m => m.integer
  | .long m | .fraction m | .longFraction m => m.value
  | .exponent m negative e => (m.withExponent negative e).value
  | .vanished negative => .ok (.float (if negative then -0.0 else 0.0))

end NumberScan

end TaskMail.Json
