/-!
# Durations

A duration is a number of whole seconds and of nanoseconds below one second. In query text it is
written as a sequence of counts with units, from the year of 365 days down to the millisecond, each
unit at most once; what is shorter than a millisecond is dropped.
-/

namespace SelectorGuard

/-- A span of time. -/
structure Duration where
  /-- Whole seconds. -/
  seconds : UInt64
  /-- Nanoseconds beyond them. -/
  nanos : Fin 1000000000
deriving DecidableEq, Repr, Inhabited

namespace Duration

/-- A duration of whole seconds. -/
def ofSeconds (seconds : UInt64) : Duration :=
  ⟨seconds, ⟨0, by decide⟩⟩

/-- No time at all. -/
def zero : Duration := ofSeconds 0

/-- The duration of seconds and nanoseconds, whole seconds among the nanoseconds being carried
over. Nothing if the seconds do not fit a word of 64 bits. -/
def ofParts? (seconds nanos : Nat) : Option Duration :=
  let total := seconds + nanos / 1000000000
  if total < 0x10000000000000000 then
    some ⟨UInt64.ofNat total, ⟨nanos % 1000000000, Nat.mod_lt _ (by decide)⟩⟩
  else none

/-- The whole milliseconds of a duration. -/
def millis (d : Duration) : Nat :=
  d.seconds.toNat * 1000 + d.nanos.val / 1000000

/-- The units with their sizes in milliseconds, the largest first. -/
def units : List (String × Nat) :=
  [("y", 365 * 24 * 60 * 60 * 1000), ("w", 7 * 24 * 60 * 60 * 1000), ("d", 24 * 60 * 60 * 1000),
    ("h", 60 * 60 * 1000), ("m", 60 * 1000), ("s", 1000), ("ms", 1)]

/-- Split milliseconds among units, as many of each as go in, leaving out units of which there are
none. -/
def split : Nat → List (String × Nat) → List (Nat × String)
  | _, [] => []
  | ms, (unit, size) :: rest =>
    if size ≤ ms then (ms / size, unit) :: split (ms % size) rest else split ms rest

/-- The counts and units that a duration is written with; none for less than a millisecond. -/
def components (d : Duration) : List (Nat × String) :=
  split d.millis units

/-- The characters of a duration in query text. -/
def chars (d : Duration) : List Char :=
  if d.millis = 0 then ['0', 's']
  else d.components.flatMap fun c => Nat.toDigits 10 c.1 ++ c.2.toList

/-- A duration in query text, such as `1h30m`. -/
def render (d : Duration) : String :=
  String.ofList d.chars

end Duration

end SelectorGuard
