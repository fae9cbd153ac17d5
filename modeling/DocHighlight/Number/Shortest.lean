import DocHighlight.Number.Binary64

/-!
# Shortest decimals

The decimal with the fewest digits among those that read back as a given binary number, and of
several the nearest. The numbers that round to `mantissa · 2 ^ exponent` form an interval around it,
which holds its ends when the mantissa is even. For one digit, two, and so on, the two neighbours of
the value on the grid of so many digits are tried against the interval.
-/

namespace DocHighlight

/-- A decimal number `digits · 10 ^ scale`. -/
structure Decimal where
  digits : Nat
  scale : Int
deriving DecidableEq, Repr, Inhabited

namespace Decimal

/-- The same number without zeros at the end of its digits; `fuel` bounds their number. -/
def trim : Nat → Decimal → Decimal
  | 0, decimal => decimal
  | fuel + 1, decimal =>
      if decimal.digits % 10 = 0 then trim fuel ⟨decimal.digits / 10, decimal.scale + 1⟩
      else decimal

end Decimal

namespace Binary64

/-- A positive quotient with the ends of the interval of numbers that round to it; all three have
one denominator. -/
structure Interval where
  low : Nat
  value : Nat
  high : Nat
  denominator : Nat
  closed : Bool

/-- The numbers that round to `mantissa · 2 ^ exponent`. Below a power of two the neighbour is
nearer. -/
def interval (mantissa : Nat) (exponent : Int) : Interval :=
  let up := Nat.pow 2 (exponent - 2).toNat
  let below := if mantissa = Nat.pow 2 52 ∧ leastExponent < exponent then 1 else 2
  { low := (4 * mantissa - below) * up
    value := 4 * mantissa * up
    high := (4 * mantissa + 2) * up
    denominator := Nat.pow 2 (2 - exponent).toNat
    closed := mantissa % 2 = 0 }

/-- Whether `digits · 10 ^ scale` rounds to the value of the interval. -/
def Interval.holds (interval : Interval) (digits : Nat) (scale : Int) : Bool :=
  let candidate := digits * Nat.pow 10 scale.toNat * interval.denominator
  let low := interval.low * Nat.pow 10 (-scale).toNat
  let high := interval.high * Nat.pow 10 (-scale).toNat
  if interval.closed then low ≤ candidate && candidate ≤ high
  else low < candidate && candidate < high

/-- The integer `k` for which the value lies between `10 ^ k` and `10 ^ (k + 1)`. -/
def Interval.decimalExponent (interval : Interval) : Int :=
  let guess : Int :=
    (Nat.toDigits 10 interval.value).length - (Nat.toDigits 10 interval.denominator).length
  if interval.denominator * Nat.pow 10 guess.toNat ≤ interval.value * Nat.pow 10 (-guess).toNat
  then guess else guess - 1

/-- The neighbours of the value among the multiples of `10 ^ scale`: the lower one, and whether the
upper one is nearer; the even one counts as nearer when both are equally far. -/
def Interval.neighbour (interval : Interval) (scale : Int) : Nat × Bool :=
  let numerator := interval.value * Nat.pow 10 (-scale).toNat
  let denominator := interval.denominator * Nat.pow 10 scale.toNat
  let lower := numerator / denominator
  let twice := 2 * (numerator % denominator)
  (lower, denominator < twice || (denominator == twice && lower % 2 == 1))

/-- The decimal of at most `count` digits, counted from the decimal exponent of the value, that
rounds to it, the nearer neighbour first. -/
def Interval.atPrecision (interval : Interval) (count : Nat) : Option Decimal :=
  let scale := interval.decimalExponent - count + 1
  let (lower, upperIsNearer) := interval.neighbour scale
  let first := if upperIsNearer then lower + 1 else lower
  let second := if upperIsNearer then lower else lower + 1
  if interval.holds first scale then some ⟨first, scale⟩
  else if interval.holds second scale then some ⟨second, scale⟩
  else none

/-- The shortest decimal that reads back as `mantissa · 2 ^ exponent`; seventeen digits always do.
-/
def shortest (mantissa : Nat) (exponent : Int) : Decimal :=
  let around := interval mantissa exponent
  let found := (List.range 17).findSome? fun count => around.atPrecision (count + 1)
  Decimal.trim 17 (found.getD ⟨mantissa, exponent⟩)

end Binary64

end DocHighlight
