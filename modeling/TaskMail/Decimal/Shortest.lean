/-!
# TaskMail.Decimal.Shortest

The fewest decimal digits that read back as a given double.

* `Binary`    — a double as `significand * 2 ^ exponent`.
* `Decimal`   — a decimal as `digits * 10 ^ exponent`.
* `shortest`  — the shortest decimal that rounds to a double, the nearest to it of those.

A decimal rounds to a double when it lies between the midpoints to the two neighbours of the
double; a midpoint itself rounds to the double whose significand is even. For 1, 2, … digits
the grid of decimals with that many digits is tried: if any of its points rounds to the double,
one of the two next to the double does.
-/

namespace TaskMail

structure Decimal where
  digits : Nat
  exponent : Int
  deriving Repr, DecidableEq

namespace Decimal

structure Binary where
  significand : Nat
  exponent : Int
  /-- The neighbour below is only half as far away as the one above. -/
  narrow : Bool
  deriving Repr, DecidableEq

/-- The absolute value of a finite double. -/
def Binary.ofBits (bits : Nat) : Binary :=
  let fraction : Nat := bits % 0x10000000000000
  let biased : Nat := bits / 0x10000000000000 % 0x800
  if biased = 0 then ⟨fraction, -1074, false⟩
  else ⟨0x10000000000000 + fraction, (biased : Int) - 1075, fraction = 0 ∧ 1 < biased⟩

/-- A positive interval around a value, all over one denominator. -/
structure Interval where
  low : Nat
  value : Nat
  high : Nat
  denominator : Nat
  /-- The ends belong to the interval. -/
  closed : Bool
  deriving Repr, DecidableEq

/-- The reals that round to a double. -/
def Binary.interval (b : Binary) : Interval :=
  let up := 1 <<< (b.exponent - 2).toNat
  let m := 4 * b.significand
  { low := (m - if b.narrow then 1 else 2) * up
    value := m * up
    high := (m + 2) * up
    denominator := 1 <<< (2 - b.exponent).toNat
    closed := b.significand % 2 = 0 }

namespace Interval

/-- The power `10 ^ e`, and one for a negative `e`. -/
def powerOfTen (e : Int) : Nat :=
  Nat.pow 10 e.toNat

/-- Whether `digits * 10 ^ exponent` lies in the interval. -/
def contains (i : Interval) (d : Decimal) : Bool :=
  let n := d.digits * powerOfTen d.exponent * i.denominator
  let scale := powerOfTen (-d.exponent)
  if i.closed then i.low * scale ≤ n && n ≤ i.high * scale
  else i.low * scale < n && n < i.high * scale

/-- Whether `10 ^ e` is at most the value. -/
def reaches (i : Interval) (e : Int) : Bool :=
  powerOfTen e * i.denominator ≤ i.value * powerOfTen (-e)

/-- The exponent of the first digit of the value, for a positive value: an estimate from the
binary length, off by one at most, and its correction. -/
def leadingExponent (i : Interval) : Int :=
  let estimate := ((i.value.log2 : Int) - (i.denominator.log2 : Int)) * 30103 / 100000
  if i.reaches (estimate + 1) then estimate + 1
  else if i.reaches estimate then estimate
  else estimate - 1

/-- The two neighbours of the value on the grid of multiples of `10 ^ e`, the nearer one first;
of two that are as near, the even one. -/
def neighbours (i : Interval) (e : Int) : Decimal × Decimal :=
  let numerator := i.value * powerOfTen (-e)
  let denominator := i.denominator * powerOfTen e
  let below := numerator / denominator
  let excess := 2 * (numerator % denominator)
  if excess < denominator ∨ excess = denominator ∧ below % 2 = 0 then
    (⟨below, e⟩, ⟨below + 1, e⟩)
  else (⟨below + 1, e⟩, ⟨below, e⟩)

end Interval

/-- The same decimal without zeros at its end, of which at most `fuel` are dropped. -/
def stripped : Nat → Decimal → Decimal
  | 0, d => d
  | fuel + 1, d =>
    if d.digits % 10 = 0 then stripped fuel ⟨d.digits / 10, d.exponent + 1⟩ else d

/-- Tries the grids of `count`, `count + 1`, … digits, `fuel` of them. -/
def search (i : Interval) (leading : Int) : Nat → Nat → Decimal
  | 0, count => (i.neighbours (leading - count + 1)).1
  | fuel + 1, count =>
    let (near, far) := i.neighbours (leading - count + 1)
    if i.contains near then near
    else if i.contains far then far
    else search i leading fuel (count + 1)

/-- The shortest decimal that rounds to the double, which is positive. Seventeen digits are
always enough. -/
def shortest (b : Binary) : Decimal :=
  let i := b.interval
  stripped 17 (search i i.leadingExponent 16 1)

end Decimal

end TaskMail
