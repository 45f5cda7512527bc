import SelectorGuard.Text.Blank

/-!
# Quoted literals of query text

A literal is written between double quotes. Inside it a quote and a backslash follow a backslash,
line feed, carriage return and tab have short escapes, every other control character is written as
a backslash, the letter u and four hexadecimal digits, and all else stands for itself. The reader
follows the same rules and stops at the first quote that no backslash protects.
-/

namespace SelectorGuard.Text

/-- The lower-case hexadecimal digit of a number below 16. -/
def hexDigit (n : Nat) : Char :=
  Nat.digitChar (n % 16)

/-- The four lower-case hexadecimal digits of a number below 0x10000. -/
def hexFour (n : Nat) : List Char :=
  [hexDigit (n / 4096), hexDigit (n / 256), hexDigit (n / 16), hexDigit n]

/-- The value of a hexadecimal digit of either case. -/
def hexValue? (c : Char) : Option Nat :=
  if '0' ≤ c ∧ c ≤ '9' then some (c.toNat - '0'.toNat)
  else if 'a' ≤ c ∧ c ≤ 'f' then some (c.toNat - 'a'.toNat + 10)
  else if 'A' ≤ c ∧ c ≤ 'F' then some (c.toNat - 'A'.toNat + 10)
  else none

/-- The value of a run of hexadecimal digits, the first digit being the most significant. -/
def hexNumber? (cs : List Char) : Option Nat :=
  cs.foldl (fun acc c => do return (← acc) * 16 + (← hexValue? c)) (some 0)

/-- The character with a code point, if the number is one and is no surrogate. -/
def charOfNat? (n : Nat) : Option Char :=
  if h : n.isValidChar then some (Char.ofNatAux n h) else none

namespace Quoted

/-- The spelling of one character inside a literal. -/
def escape (c : Char) : List Char :=
  if c = '"' then ['\\', '"']
  else if c = '\\' then ['\\', '\\']
  else if c = '\n' then ['\\', 'n']
  else if c = '\r' then ['\\', 'r']
  else if c = '\t' then ['\\', 't']
  else if isControl c then '\\' :: 'u' :: hexFour c.toNat
  else [c]

/-- The literal that denotes a text. -/
def encode (cs : List Char) : List Char :=
  '"' :: (cs.flatMap escape ++ ['"'])

/-- Read the inside of a literal up to its closing quote; the second part is what follows. -/
def decodeBody : List Char → Option (List Char × List Char)
  | [] => none
  | '"' :: rest => some ([], rest)
  | '\\' :: 'u' :: a :: b :: c :: d :: rest => do
    let value ← hexNumber? [a, b, c, d]
    let char ← charOfNat? value
    let (text, after) ← decodeBody rest
    return (char :: text, after)
  | '\\' :: 'n' :: rest => (decodeBody rest).map fun r => ('\n' :: r.1, r.2)
  | '\\' :: 'r' :: rest => (decodeBody rest).map fun r => ('\r' :: r.1, r.2)
  | '\\' :: 't' :: rest => (decodeBody rest).map fun r => ('\t' :: r.1, r.2)
  | '\\' :: '"' :: rest => (decodeBody rest).map fun r => ('"' :: r.1, r.2)
  | '\\' :: '\\' :: rest => (decodeBody rest).map fun r => ('\\' :: r.1, r.2)
  | c :: rest =>
    if c = '\\' then none else (decodeBody rest).map fun r => (c :: r.1, r.2)

/-- Read one literal at the start of a text; the second part is what follows it. -/
def decode : List Char → Option (List Char × List Char)
  | '"' :: rest => decodeBody rest
  | _ => none

end Quoted

end SelectorGuard.Text
