/-!
# Binary floating-point numbers

Numbers of 64-bit binary floating point as exact values: a finite one is `mantissa · 2 ^ exponent`
with a mantissa below `2 ^ 53`. A decimal number is read as the nearest such value; of two equally
near ones the even mantissa wins, what is too large becomes infinite, and what is too small becomes
zero.
-/

namespace DocHighlight

inductive Binary64 where
  | nan
  | infinite (negative : Bool)
  | finite (negative : Bool) (mantissa : Nat) (exponent : Int)
deriving DecidableEq, Repr, Inhabited

namespace Binary64

/-- The exponent of the smallest step, which is also the exponent of zero. -/
def leastExponent : Int :=
  -1074

/-- The exponent of the largest finite numbers. -/
def greatestExponent : Int :=
  971

/-- The integer nearest to a quotient; a half goes to the even neighbour. -/
def roundHalfEven (numerator denominator : Nat) : Nat :=
  let quotient := numerator / denominator
  let remainder := numerator % denominator
  if 2 * remainder < denominator then quotient
  else if denominator < 2 * remainder then quotient + 1
  else if quotient % 2 = 0 then quotient else quotient + 1

/-- The integer `k` for which a positive quotient lies between `2 ^ k` and `2 ^ (k + 1)`. -/
def magnitude (numerator denominator : Nat) : Int :=
  let guess : Int := numerator.log2 - denominator.log2
  if denominator * Nat.pow 2 guess.toNat ≤ numerator * Nat.pow 2 (-guess).toNat then guess
  else guess - 1

/-- The number nearest to a positive quotient. -/
def ofRatio (negative : Bool) (numerator denominator : Nat) : Binary64 :=
  let exponent := max (magnitude numerator denominator - 52) leastExponent
  let mantissa :=
    roundHalfEven (numerator * Nat.pow 2 (-exponent).toNat) (denominator * Nat.pow 2 exponent.toNat)
  let carried := mantissa = Nat.pow 2 53
  let exponent := if carried then exponent + 1 else exponent
  if greatestExponent < exponent then .infinite negative
  else .finite negative (if carried then Nat.pow 2 52 else mantissa) exponent

/-- The number nearest to `digits · 10 ^ scale`. A value of at least `10 ^ 310` is beyond all finite
numbers and one below `10 ^ (-326)` is nearest to zero, so their powers of ten are not worked out.
-/
def ofDecimal (negative : Bool) (digits : Nat) (scale : Int) : Binary64 :=
  let places : Int := (Nat.toDigits 10 digits).length + scale
  if digits = 0 ∨ places < -326 then .finite negative 0 leastExponent
  else if 310 < places then .infinite negative
  else ofRatio negative (digits * Nat.pow 10 scale.toNat) (Nat.pow 10 (-scale).toNat)

end Binary64

end DocHighlight
