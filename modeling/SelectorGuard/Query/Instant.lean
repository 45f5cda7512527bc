import SelectorGuard.Text.Blank

/-!
# Instants

An instant is counted in seconds from the start of 1970 in universal time, with nanoseconds beyond
them. A leap second is the second before it with more than a thousand million nanoseconds. Instants
are written in universal time with as many fraction digits as needed: none, three, six or nine.
They are read from a date, a time and an offset, with blanks allowed between the parts.
-/

namespace SelectorGuard

/-- A point in time. -/
structure Instant where
  /-- Seconds since the start of 1970. -/
  seconds : Int
  /-- Nanoseconds beyond them, more than a thousand million in a leap second. -/
  nanos : Nat
deriving DecidableEq, Repr, Inhabited

namespace Instant

/-- A day of the Gregorian calendar. -/
structure Day where
  /-- The year, negative before the year zero. -/
  year : Int
  /-- The month, from 1. -/
  month : Nat
  /-- The day of the month, from 1. -/
  day : Nat
deriving DecidableEq, Repr

/-- Every fourth year is a leap year, but of the full centuries only every fourth. -/
def isLeapYear (year : Int) : Bool :=
  year % 4 == 0 && (year % 100 != 0 || year % 400 == 0)

/-- The number of days of a month. -/
def monthLength (year : Int) (month : Nat) : Nat :=
  match month with
  | 2 => if isLeapYear year then 29 else 28
  | 4 | 6 | 9 | 11 => 30
  | _ => 31

/-- The days from the start of 1970 to a day. Years are taken to start in March, so that a leap day
comes last, and are counted in cycles of four hundred. -/
def Day.number (d : Day) : Int :=
  let year : Int := if d.month ≤ 2 then d.year - 1 else d.year
  let cycle := year / 400
  let ofCycle := year % 400
  let ofYear : Int := (153 * ((d.month + 9) % 12) + 2) / 5 + d.day - 1
  cycle * 146097 + ofCycle * 365 + ofCycle / 4 - ofCycle / 100 + ofYear - 719468

/-- The day with a number of days from the start of 1970. -/
def Day.ofNumber (n : Int) : Day :=
  let shifted := n + 719468
  let cycle := shifted / 146097
  let ofCycle := shifted % 146097
  let year := (ofCycle - ofCycle / 1460 + ofCycle / 36524 - ofCycle / 146096) / 365
  let ofYear := (ofCycle - (365 * year + year / 4 - year / 100)).toNat
  let month := (5 * ofYear + 2) / 153
  let day := ofYear - (153 * month + 2) / 5 + 1
  let month := if month < 10 then month + 3 else month - 9
  ⟨cycle * 400 + year + (if month ≤ 2 then 1 else 0), month, day⟩

/-- The first year that can be represented. -/
def firstYear : Int := -262143

/-- The last year that can be represented. -/
def lastYear : Int := 262142

/-- The seconds of a day. -/
def daySeconds : Int := 86400

/-- The decimal digits of a number, filled up with zeros to a width. -/
def padded (width n : Nat) : List Char :=
  let digits := Nat.toDigits 10 n
  List.replicate (width - digits.length) '0' ++ digits

/-- A year in four digits; one that needs more, or is negative, has a sign. -/
def yearChars (year : Int) : List Char :=
  if 0 ≤ year && year ≤ 9999 then padded 4 year.toNat
  else (if year < 0 then '-' else '+') :: padded 4 year.natAbs

/-- A fraction of a second in three, six or nine digits, or nothing for none. -/
def fractionChars (nanos : Nat) : List Char :=
  if nanos = 0 then []
  else if nanos % 1000000 = 0 then '.' :: padded 3 (nanos / 1000000)
  else if nanos % 1000 = 0 then '.' :: padded 6 (nanos / 1000)
  else '.' :: padded 9 nanos

/-- The characters of an instant in universal time. -/
def chars (t : Instant) : List Char :=
  let day := Day.ofNumber (t.seconds / daySeconds)
  let second := (t.seconds % daySeconds).toNat
  let leap := if 1000000000 ≤ t.nanos then 1 else 0
  yearChars day.year ++ '-' :: padded 2 day.month ++ '-' :: padded 2 day.day ++
    'T' :: padded 2 (second / 3600) ++ ':' :: padded 2 (second / 60 % 60) ++
    ':' :: padded 2 (second % 60 + leap) ++ fractionChars (t.nanos % 1000000000) ++ ['Z']

/-- The text of an instant. -/
def render (t : Instant) : String :=
  String.ofList t.chars

/-- Read a number of at least one and at most a number of digits. -/
def readDigits (most : Nat) (cs : List Char) : Option (Nat × List Char) :=
  let digits := (cs.take most).takeWhile Char.isDigit
  if digits.isEmpty then none
  else some (digits.foldl (fun n c => n * 10 + (c.toNat - '0'.toNat)) 0, cs.drop digits.length)

/-- Read a number of at most two digits within bounds, after blanks. -/
def readField (least most : Nat) (cs : List Char) : Option (Nat × List Char) := do
  let (n, left) ← readDigits 2 (Text.trimStart cs)
  if least ≤ n && n ≤ most then return (n, left) else none

/-- Read a given character, after blanks. -/
def readMark (mark : Char) (cs : List Char) : Option (List Char) :=
  match Text.trimStart cs with
  | c :: rest => if c = mark then some rest else none
  | [] => none

/-- Read a year: four digits at most, or any number of them after a sign. -/
def readYear (cs : List Char) : Option (Int × List Char) :=
  match Text.trimStart cs with
  | '-' :: rest => (readDigits rest.length rest).map fun r => (-(r.1 : Int), r.2)
  | '+' :: rest => (readDigits rest.length rest).map fun r => ((r.1 : Int), r.2)
  | rest => (readDigits 4 rest).map fun r => ((r.1 : Int), r.2)

/-- Read a fraction of a second if there is one. Digits beyond the ninth are passed over. -/
def readFraction (cs : List Char) : Option (Nat × List Char) :=
  match cs with
  | '.' :: rest => do
    let (n, left) ← readDigits 9 rest
    return (n * Nat.pow 10 (9 - (rest.length - left.length)), left.dropWhile Char.isDigit)
  | _ => some (0, cs)

/-- Read an offset from universal time in seconds: the letter Z, the letters UTC, or a sign, two
digits of hours and two of minutes, with colons and blanks between them. -/
def readOffset (cs : List Char) : Option (Int × List Char) :=
  let signed (negative : Bool) (rest : List Char) : Option (Int × List Char) := do
    let (hours, left) ← readDigits 2 rest
    if rest.length - left.length != 2 then none
    let rest := left.dropWhile fun c => c == ':' || Text.isBlank c
    let (minutes, left) ← readDigits 2 rest
    if rest.length - left.length != 2 || 60 ≤ minutes then none
    let seconds : Int := hours * 3600 + minutes * 60
    return (if negative then -seconds else seconds, left)
  match cs with
  | 'Z' :: rest | 'z' :: rest => some (0, rest)
  | '+' :: rest => signed false rest
  | '-' :: rest | '\u2212' :: rest => signed true rest
  | a :: b :: c :: rest =>
    if [a, b, c].map Char.toUpper = ['U', 'T', 'C'] then some (0, rest) else none
  | _ => none

/-- Read an instant from a text that holds nothing else. -/
def ofText? (text : String) : Option Instant := do
  let (year, cs) ← readYear text.toList
  let (month, cs) ← readField 1 12 (← readMark '-' cs)
  let (day, cs) ← readField 1 31 (← readMark '-' cs)
  let cs ← match cs with
    | 'T' :: rest | 't' :: rest | ' ' :: rest => some rest
    | _ => none
  let (hour, cs) ← readField 0 23 cs
  let (minute, cs) ← readField 0 59 (← readMark ':' cs)
  let (second, cs) ← readField 0 60 (← readMark ':' cs)
  let (fraction, cs) ← readFraction cs
  let (offset, cs) ← readOffset (Text.trimStart cs)
  if !Text.isAllBlank cs then none
  if year < firstYear || lastYear < year || monthLength year month < day then none
  if offset ≤ -daySeconds || daySeconds ≤ offset then none
  let leap := second == 60
  let seconds := Day.number ⟨year, month, day⟩ * daySeconds +
    (hour * 3600 + minute * 60 + (if leap then 59 else second) : Nat) - offset
  let result : Instant := ⟨seconds, fraction + if leap then 1000000000 else 0⟩
  let resultYear := (Day.ofNumber (seconds / daySeconds)).year
  if resultYear < firstYear || lastYear < resultYear then none
  return result

end Instant

end SelectorGuard
