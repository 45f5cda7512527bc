import SelectorGuard.Decimal.Nearest

/-!
# Decimal numerals

A numeral is a sign, digits before and after the decimal point, and an exponent. It is read as a
number in two ways. The exact way rounds the decimal to the nearest number of double precision. The
quick way keeps as many leading digits as a word of 64 bits holds, and scales them by powers of ten
with one rounding for each multiplication or division; its result may differ from the exact one in
the last place.
-/

namespace SelectorGuard

/-- A decimal numeral. -/
structure Numeral where
  /-- A minus sign stands in front. -/
  negative : Bool
  /-- Digits before the decimal point. -/
  whole : List Char
  /-- Digits after the decimal point; without any there is no point. -/
  fraction : List Char
  /-- The sign and digits of the exponent, true for a minus sign. -/
  exponent : Option (Bool × List Char)
deriving DecidableEq, Repr, Inhabited

namespace Numeral

/-- The value of a digit. -/
def digitValue (c : Char) : Nat :=
  c.toNat - '0'.toNat

/-- The number that digits denote. -/
def natOf (digits : List Char) : Nat :=
  digits.foldl (fun n c => n * 10 + digitValue c) 0

/-- The numeral of a natural number. -/
def ofNat (n : Nat) : Numeral :=
  ⟨false, Nat.toDigits 10 n, [], none⟩

/-- The characters of a numeral. The exponent always has a sign. -/
def chars (n : Numeral) : List Char :=
  (if n.negative then ['-'] else []) ++ n.whole ++
    (if n.fraction.isEmpty then [] else '.' :: n.fraction) ++
    match n.exponent with
    | none => []
    | some (negative, digits) => 'e' :: (if negative then '-' else '+') :: digits

/-- Read a minus sign if there is one. -/
def readSign : List Char → Bool × List Char
  | '-' :: rest => (true, rest)
  | cs => (false, cs)

/-- Read digits, at least one. -/
def readDigits? (cs : List Char) : Option (List Char × List Char) :=
  let (digits, left) := cs.span Char.isDigit
  if digits.isEmpty then none else some (digits, left)

/-- Read the digits before the point. A zero at their start stands alone. -/
def readWhole? (cs : List Char) : Option (List Char × List Char) := do
  let (digits, left) ← readDigits? cs
  if digits.head? == some '0' && digits.length != 1 then none else some (digits, left)

/-- Read a point and the digits after it, if there is a point. -/
def readFraction? : List Char → Option (List Char × List Char)
  | '.' :: rest => readDigits? rest
  | cs => some ([], cs)

/-- Read the sign of an exponent, true for a minus sign; a plus sign may be left out. -/
def readExponentSign : List Char → Bool × List Char
  | '-' :: rest => (true, rest)
  | '+' :: rest => (false, rest)
  | cs => (false, cs)

/-- Read an exponent, if there is one. -/
def readExponent? : List Char → Option (Option (Bool × List Char) × List Char)
  | 'e' :: rest | 'E' :: rest => do
    let (negative, rest) := readExponentSign rest
    let (digits, left) ← readDigits? rest
    return (some (negative, digits), left)
  | cs => some (none, cs)

/-- Read a numeral at the start of a text. There must be a digit before the point, after it, and in
the exponent, and a zero before the point stands alone. -/
def read? (cs : List Char) : Option (Numeral × List Char) := do
  let (negative, cs) := readSign cs
  let (whole, cs) ← readWhole? cs
  let (fraction, cs) ← readFraction? cs
  let (exponent, cs) ← readExponent? cs
  return (⟨negative, whole, fraction, exponent⟩, cs)

/-- The largest number of 64 bits. -/
def maxWord : Nat := 0xFFFFFFFFFFFFFFFF

/-- The number of 64 bits that a numeral of digits alone denotes. -/
def toWord? (n : Numeral) : Option Nat :=
  if n.negative || !n.fraction.isEmpty || n.exponent.isSome then none
  else if natOf n.whole ≤ maxWord then some (natOf n.whole) else none

/-- Take digits into a word as long as they fit; the second part counts those that did not. -/
def takeWhole : Nat → List Char → Nat × Nat
  | value, [] => (value, 0)
  | value, c :: rest =>
    if value * 10 + digitValue c ≤ maxWord then takeWhole (value * 10 + digitValue c) rest
    else (value, rest.length + 1)

/-- Take digits after the point into a word as long as they fit; the second part counts those that
did. -/
def takeFraction : Nat → Nat → List Char → Nat × Nat
  | value, taken, [] => (value, taken)
  | value, taken, c :: rest =>
    if value * 10 + digitValue c ≤ maxWord then
      takeFraction (value * 10 + digitValue c) (taken + 1) rest
    else (value, taken)

/-- The exponent of a numeral. -/
def exponentValue (n : Numeral) : Int :=
  match n.exponent with
  | none => 0
  | some (true, digits) => -(natOf digits : Int)
  | some (false, digits) => natOf digits

/-- A power of ten in double precision. -/
def powerOfTen (k : Nat) : Float :=
  Decimal.nearest (Nat.pow 10 k) 1

/-- Divide by a power of ten, in steps of at most 308. -/
def scaleDown (x : Float) (k : Nat) : Float :=
  if k ≤ 308 then x / powerOfTen k
  else if x == 0 then x
  else scaleDown (x / powerOfTen 308) (k - 308)
termination_by k

/-- Multiply by a power of ten; nothing if the result is out of range. -/
def scaleUp? (x : Float) (k : Nat) : Option Float :=
  if k ≤ 308 then
    let y := x * powerOfTen k
    if y.isInf then none else some y
  else if x == 0 then some x
  else none

/-- The number that a numeral denotes, read the quick way; nothing if it is out of range. -/
def toFloat? (n : Numeral) : Option Float :=
  let (value, dropped) := takeWhole 0 n.whole
  let (value, taken) := takeFraction value 0 n.fraction
  let exponent := n.exponentValue + dropped - taken
  let x := Decimal.nearest value 1
  let magnitude :=
    if 0 ≤ exponent then scaleUp? x exponent.toNat else some (scaleDown x (-exponent).toNat)
  magnitude.map fun y => if n.negative then -y else y

/-- The number that a numeral denotes, rounded to the nearest. An exponent so large or small that
the digits cannot matter is cut off. -/
def toNearest (n : Numeral) : Float :=
  let digits := natOf (n.whole ++ n.fraction)
  let exponent := n.exponentValue - n.fraction.length
  let top := exponent + (n.whole.length + n.fraction.length)
  let magnitude : Float :=
    if digits = 0 || top < -400 then 0
    else if 400 < exponent then 1 / 0
    else Decimal.nearest (digits * Nat.pow 10 exponent.toNat) (Nat.pow 10 (-exponent).toNat)
  if n.negative then -magnitude else magnitude

/-- The numeral of a finite number: its shortest decimal, a tie going to the even digit. From 1e-5
up to 1e16 it has no exponent and at least one digit on either side of the point. -/
def ofFloat? (x : Float) : Option Numeral :=
  match Decimal.magnitude x with
  | .nan | .infinite => none
  | .finite 0 _ => some ⟨Decimal.isNegative x, ['0'], ['0'], none⟩
  | .finite m e =>
    let d := Decimal.shortest false m e
    let orZero (digits : List Char) := if digits.isEmpty then ['0'] else digits
    if -5 < d.point && d.point ≤ 16 then
      let (whole, fraction) := d.positional
      some ⟨Decimal.isNegative x, orZero whole, orZero fraction, none⟩
    else
      let exponent := d.point - 1
      some ⟨Decimal.isNegative x, d.chars.take 1, d.chars.drop 1,
        some (exponent < 0, Nat.toDigits 10 exponent.natAbs)⟩

end Numeral

/-- The text of a number in a query: its shortest decimal without exponent, a tie going up, and
names for the numbers that have none. -/
def Decimal.queryChars (x : Float) : List Char :=
  match magnitude x with
  | .nan => "NaN".toList
  | .infinite => (if isNegative x then "-Inf" else "+Inf").toList
  | .finite m e =>
    let (whole, fraction) := if m = 0 then ([], []) else (shortest true m e).positional
    (if isNegative x then ['-'] else []) ++ (if whole.isEmpty then ['0'] else whole) ++
      (if fraction.isEmpty then [] else '.' :: fraction)

/-- Read a number from text, to the nearest: a numeral with an optional sign, whose digits may be
missing on one side of the point, or one of the names of infinity and of no number. -/
def Decimal.ofText? (text : String) : Option Float := do
  let (sign, body) := match text.toList with
    | '-' :: rest => (true, rest)
    | '+' :: rest => (false, rest)
    | cs => (false, cs)
  let signed (x : Float) : Float := if sign then -x else x
  let word := String.ofList (body.map Char.toLower)
  if word = "nan" then return signed (0 / 0)
  else if word = "inf" || word = "infinity" then return signed (1 / 0)
  else
    let (whole, rest) := body.span Char.isDigit
    let (fraction, rest) := match rest with
      | '.' :: more => more.span Char.isDigit
      | _ => ([], rest)
    if whole.isEmpty && fraction.isEmpty then none
    let exponent ← match rest with
      | [] => some none
      | c :: more =>
        if c != 'e' && c != 'E' then none
        else
          let (negative, digits) := match more with
            | '-' :: digits => (true, digits)
            | '+' :: digits => (false, digits)
            | digits => (false, digits)
          if digits.isEmpty || !digits.all Char.isDigit then none
          else some (some (negative, digits))
    return signed (Numeral.toNearest ⟨false, whole, fraction, exponent⟩)

end SelectorGuard
