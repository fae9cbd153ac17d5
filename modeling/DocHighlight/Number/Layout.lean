import DocHighlight.Number.Shortest

/-!
# Number layouts

How a floating-point number is written down once its digits are known: with a point among the digits
when the decimal exponent lies in a given range, and with an exponent otherwise.
-/

namespace DocHighlight

/-- The decisions of a notation for floating-point numbers. -/
structure NumberLayout where
  /-- The least decimal exponent that is written without an exponent. -/
  leastPositional : Int
  /-- The greatest decimal exponent that is written without an exponent. -/
  greatestPositional : Int
  /-- How many digits an exponent has at least. -/
  exponentDigits : Nat
  /-- The text for what is not a number. -/
  nan : String
  /-- The text for infinity. -/
  infinity : String
  /-- The text for negative infinity. -/
  negativeInfinity : String

namespace NumberLayout

/-- The digits of a natural number. -/
def decimalDigits (value : Nat) : List Char :=
  Nat.toDigits 10 value

/-- The digits of an integer, with a minus sign before a negative one. -/
def integer : Int → List Char
  | .ofNat value => decimalDigits value
  | .negSucc value => '-' :: decimalDigits (value + 1)

/-- Digits with a point after as many of them as given, filled up with zeros; one digit follows the
point at least. -/
def withPoint (digits : List Char) (before : Nat) : List Char :=
  let fraction := digits.drop before
  digits.take before ++ List.replicate (before - digits.length) '0' ++
    '.' :: (if fraction.isEmpty then ['0'] else fraction)

/-- Digits with a point after the first, if others follow, and an exponent with its sign. -/
def withExponent (layout : NumberLayout) (digits : List Char) (exponent : Int) : List Char :=
  let size := decimalDigits exponent.natAbs
  let fraction := digits.drop 1
  digits.take 1 ++ (if fraction.isEmpty then [] else '.' :: fraction) ++
    'e' :: (if exponent < 0 then '-' else '+') ::
      (List.replicate (layout.exponentDigits - size.length) '0' ++ size)

/-- A decimal number without its sign. -/
def magnitude (layout : NumberLayout) (decimal : Decimal) : List Char :=
  let digits := decimalDigits decimal.digits
  let exponent : Int := decimal.scale + digits.length - 1
  if exponent < layout.leastPositional ∨ layout.greatestPositional < exponent then
    layout.withExponent digits exponent
  else if exponent < 0 then
    '0' :: '.' :: (List.replicate (-exponent - 1).toNat '0' ++ digits)
  else withPoint digits (exponent.toNat + 1)

/-- A floating-point number with the fewest digits that read back. -/
def float (layout : NumberLayout) : Binary64 → List Char
  | .nan => layout.nan.toList
  | .infinite false => layout.infinity.toList
  | .infinite true => layout.negativeInfinity.toList
  | .finite negative mantissa exponent =>
      (if negative then ['-'] else []) ++
        if mantissa = 0 then ['0', '.', '0']
        else layout.magnitude (Binary64.shortest mantissa exponent)

end NumberLayout

end DocHighlight
