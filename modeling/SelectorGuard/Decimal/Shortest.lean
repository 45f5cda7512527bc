/-!
# Shortest decimals

Every finite number of double precision is an integer times a power of two, and it stands for all
reals that round to it. Its shortest decimal is the one with the fewest digits among those reals,
and of the decimals of that length the nearest to the number. Where two are equally near, the
caller decides which one is taken. All of this is exact arithmetic on natural numbers.
-/

namespace SelectorGuard.Decimal

/-- What a word of double precision stands for, without its sign. -/
inductive Magnitude where
  /-- Not a number. -/
  | nan
  /-- Infinity. -/
  | infinite
  /-- The number `mantissa * 2 ^ exponent`. -/
  | finite (mantissa : Nat) (exponent : Int)
deriving DecidableEq, Repr

/-- The weight of the sign bit. -/
def signBit : Nat := 0x8000000000000000

/-- The weight of the lowest exponent bit, which is also that of the leading bit of a mantissa. -/
def leadingBit : Nat := 0x10000000000000

/-- The sign bit is set. -/
def isNegative (x : Float) : Bool :=
  signBit ≤ x.toBits.toNat

/-- The magnitude of a number. -/
def magnitude (x : Float) : Magnitude :=
  let exponent : Nat := x.toBits.toNat / leadingBit % 2048
  let fraction : Nat := x.toBits.toNat % leadingBit
  if exponent = 2047 then (if fraction = 0 then .infinite else .nan)
  else if exponent = 0 then .finite fraction (-1074)
  else .finite (leadingBit + fraction) (exponent - 1075)

/-- The decimal `digits * 10 ^ exponent`. -/
structure Scaled where
  /-- The digits, read as a number. -/
  digits : Nat
  /-- The power of ten of the last digit. -/
  exponent : Int
deriving DecidableEq, Repr, Inhabited

/-- The number of decimal digits of a positive number, and none for zero. -/
def digitCount (n : Nat) : Nat :=
  if n = 0 then 0 else (Nat.toDigits 10 n).length

/-- The least power of ten above the positive quotient of two numbers. -/
def tensAbove (num den : Nat) : Int :=
  if den ≤ num then digitCount (num / den) else 1 - digitCount ((den - 1) / num)

/-- The reals that round to one positive number, times a common denominator. -/
structure Interval where
  /-- The lower end. -/
  low : Nat
  /-- The number itself. -/
  value : Nat
  /-- The upper end. -/
  high : Nat
  /-- The common denominator. -/
  scale : Nat
  /-- The ends belong to the interval. -/
  closed : Bool
deriving DecidableEq, Repr

/-- The interval of a number. Below a power of two the neighbour is only half as far away, except
at the smallest numbers. Ties round to the even mantissa, so the ends belong to even ones. -/
def interval (mantissa : Nat) (exponent : Int) : Interval :=
  let below := if mantissa = leadingBit ∧ -1074 < exponent then 1 else 2
  let up := Nat.pow 2 (exponent - 2).toNat
  ⟨(4 * mantissa - below) * up, 4 * mantissa * up, (4 * mantissa + 2) * up,
    Nat.pow 2 (2 - exponent).toNat, mantissa % 2 = 0⟩

/-- Whether a decimal lies in an interval. -/
def Interval.holds (i : Interval) (d : Scaled) : Bool :=
  let point := d.digits * Nat.pow 10 d.exponent.toNat * i.scale
  let unit := Nat.pow 10 (-d.exponent).toNat
  if i.closed then i.low * unit ≤ point && point ≤ i.high * unit
  else i.low * unit < point && point < i.high * unit

/-- The multiple of a power of ten that is nearest to an interval's number among its two neighbours,
if one of them lies in the interval. -/
def Interval.nearest? (i : Interval) (tieUp : Bool) (exponent : Int) : Option Scaled :=
  let num := i.value * Nat.pow 10 (-exponent).toNat
  let den := i.scale * Nat.pow 10 exponent.toNat
  let lower : Scaled := ⟨num / den, exponent⟩
  let upper : Scaled := ⟨num / den + 1, exponent⟩
  let rest := 2 * (num % den)
  let preferUpper := den < rest || (rest == den && (tieUp || num / den % 2 == 1))
  match i.holds lower, i.holds upper with
  | true, true => some (if preferUpper then upper else lower)
  | true, false => some lower
  | false, true => some upper
  | false, false => none

/-- Try numbers of digits from one count up, for at most a number of counts. -/
def Interval.shortestFrom (i : Interval) (tieUp : Bool) (top : Int) : Nat → Nat → Scaled
  | 0, _ => ⟨0, 0⟩
  | more + 1, count =>
    match i.nearest? tieUp (top - count) with
    | some d => d
    | none => i.shortestFrom tieUp top more (count + 1)

/-- Drop trailing zeros, at most a number of them. -/
def Scaled.trim : Nat → Scaled → Scaled
  | 0, d => d
  | n + 1, d => if d.digits % 10 = 0 then Scaled.trim n ⟨d.digits / 10, d.exponent + 1⟩ else d

/-- The shortest decimal of a positive number. Seventeen digits always suffice. -/
def shortest (tieUp : Bool) (mantissa : Nat) (exponent : Int) : Scaled :=
  let i := interval mantissa exponent
  (i.shortestFrom tieUp (tensAbove i.value i.scale) 17 1).trim 17

/-- The digits of a decimal in order. -/
def Scaled.chars (d : Scaled) : List Char :=
  Nat.toDigits 10 d.digits

/-- How many digits stand before the decimal point; negative when zeros follow it. -/
def Scaled.point (d : Scaled) : Int :=
  (Nat.toDigits 10 d.digits).length + d.exponent

/-- The digits before and after the decimal point, without a zero that stands for none. -/
def Scaled.positional (d : Scaled) : List Char × List Char :=
  let digits := d.chars
  if d.point ≤ 0 then ([], List.replicate (-d.point).toNat '0' ++ digits)
  else if 0 ≤ d.exponent then (digits ++ List.replicate d.exponent.toNat '0', [])
  else (digits.take d.point.toNat, digits.drop d.point.toNat)

end SelectorGuard.Decimal
