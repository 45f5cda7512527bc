import SelectorGuard.Decimal.Shortest

/-!
# Nearest numbers of double precision

A positive quotient is rounded to the nearest number of double precision, a tie going to the even
mantissa, in exact arithmetic on natural numbers. The quotient is first cut into units of a power
of two, so that its whole part has 53 bits, or fewer where the units can get no smaller. The words
of double precision are then counted off from zero: a word is its mantissa plus one leading bit for
each power of two above the smallest, which holds below and above the first leading bit alike, and
also where rounding carries into the next power.
-/

namespace SelectorGuard.Decimal

/-- The word of infinity, the first that is not finite. -/
def infinityWord : Nat := 0x7FF0000000000000

/-- The exponent of the smallest unit. -/
def leastExponent : Int := -1074

/-- A quotient in units of a power of two, as numerator and denominator. -/
def inUnits (num den : Nat) (exponent : Int) : Nat × Nat :=
  (num * Nat.pow 2 (-exponent).toNat, den * Nat.pow 2 exponent.toNat)

/-- The exponent of the units in which the whole part of a positive quotient has 53 bits, but never
less than the least one. The lengths of the two numbers leave one of two candidates. -/
def unitExponent (num den : Nat) : Int :=
  let upper : Int := (Nat.log2 num : Int) - Nat.log2 den - 52
  let (n, d) := inUnits num den upper
  max leastExponent (if n / d < leadingBit then upper - 1 else upper)

/-- Round a quotient to a whole number, a tie going to the even one. -/
def roundHalfEven (num den : Nat) : Nat :=
  let whole := num / den
  let rest := 2 * (num % den)
  if den < rest || (rest == den && whole % 2 == 1) then whole + 1 else whole

/-- The word of the number nearest to a quotient; past the largest number it is that of infinity. -/
def nearestWord (num den : Nat) : Nat :=
  if num = 0 then 0
  else
    let exponent := unitExponent num den
    let (n, d) := inUnits num den exponent
    min infinityWord ((exponent - leastExponent).toNat * leadingBit + roundHalfEven n d)

/-- The number nearest to a quotient. -/
def nearest (num den : Nat) : Float :=
  Float.ofBits (UInt64.ofNat (nearestWord num den))

end SelectorGuard.Decimal
