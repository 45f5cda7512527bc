import SelectorGuard.Json.Record

/-!
# Identifiers of policies

An identifier is a number of 128 bits. It is written in five groups of hexadecimal digits with
hyphens between them, and read in this form, without hyphens, in braces, or after `urn:uuid:` in
either case.
-/

namespace SelectorGuard

/-- The identifier of a policy instance. -/
structure Identifier where
  /-- The 32 hexadecimal digits, most significant first. -/
  digits : List (Fin 16)
deriving DecidableEq, Repr

namespace Identifier

/-- The sizes of the groups. -/
def groups : List Nat := [8, 4, 4, 4, 12]

/-- Cut a list into groups of given sizes. -/
def split {α : Type} : List Nat → List α → List (List α)
  | [], _ => []
  | n :: sizes, l => l.take n :: split sizes (l.drop n)

/-- The characters of an identifier. -/
def chars (i : Identifier) : List Char :=
  ['-'].intercalate ((split groups i.digits).map fun g => g.map fun d => Text.hexDigit d.val)

/-- The text of an identifier. -/
def render (i : Identifier) : String :=
  String.ofList i.chars

/-- The value of a hexadecimal digit. -/
def digit? (c : Char) : Option (Fin 16) := do
  let n ← Text.hexValue? c
  if h : n < 16 then return ⟨n, h⟩ else none

/-- Read 32 digits. -/
def ofDigits? (cs : List Char) : Option Identifier :=
  if cs.length = 32 then (cs.mapM digit?).map fun ds => ⟨ds⟩ else none

/-- Read five groups of digits with hyphens between them. -/
def ofGroups? (cs : List Char) : Option Identifier :=
  let parts := split [8, 1, 4, 1, 4, 1, 4, 1, 12] cs
  match parts with
  | [a, h1, b, h2, c, h3, d, h4, e] =>
    if [h1, h2, h3, h4].all (· == ['-']) && cs.length == 36 then
      ofDigits? (a ++ b ++ c ++ d ++ e)
    else none
  | _ => none

/-- The name of the scheme, in front of an identifier that is written as a resource name. -/
def scheme : List Char := "urn:uuid:".toList

/-- Read an identifier in any of its forms. -/
def ofText? (text : String) : Option Identifier :=
  let cs := text.toList
  if cs.length = 32 then ofDigits? cs
  else if cs.length = 36 then ofGroups? cs
  else
    match cs with
    | '{' :: rest =>
      if rest.length = 37 && rest.getLast? == some '}' then ofGroups? rest.dropLast else none
    | _ =>
      if (cs.take scheme.length).map Char.toLower = scheme then ofGroups? (cs.drop scheme.length)
      else none

/-- Read an identifier from a document that holds its text. -/
def ofDocument? (text : String) : Option Identifier :=
  ((Json.read? text).bind Json.string?).bind ofText?

end Identifier

end SelectorGuard
