import SelectorGuard.Json.Reader

/-!
# Records in JSON documents

A record with named fields may be given as an object, whose members stand in any order, or as an
array, whose items stand in the order of the fields. A field occurs at most once. Members with
other names are passed over, or refused if the record is closed. One of several words may be given
as a text or as the only name in an object, with nothing to say under it.
-/

namespace SelectorGuard.Json

/-- The fields of a record, each present or not, in the order of their names. Nothing if the
document is no record with these fields. -/
def fields? (closed : Bool) (names : List String) : Json → Option (List (Option Json))
  | .object members =>
    let once := names.all fun name => (members.filter fun m => m.1 == name).length ≤ 1
    let known := !closed || members.all fun m => names.contains m.1
    if once && known then some (names.map fun name => members.lookup name) else none
  | .array items =>
    if items.length ≤ names.length then
      some (items.map some ++ List.replicate (names.length - items.length) none)
    else none
  | _ => none

/-- A text. -/
def string? : Json → Option String
  | .string s => some s
  | _ => none

/-- A truth value. -/
def bool? : Json → Option Bool
  | .bool b => some b
  | _ => none

/-- A natural number of 64 bits, written with digits alone. -/
def word? : Json → Option Nat
  | .number n => n.toWord?
  | _ => none

/-- A number of double precision. -/
def float? : Json → Option Float
  | .number n => n.toFloat?
  | _ => none

/-- A list of texts. -/
def strings? : Json → Option (List String)
  | .array items => items.mapM string?
  | _ => none

/-- What may stand under a word that is given as a name: null, or also an empty object. -/
def isNothing (allowEmpty : Bool) : Json → Bool
  | .null => true
  | .object [] => allowEmpty
  | _ => false

/-- The word that a document gives. -/
def word (allowEmpty : Bool) : Json → Option String
  | .string s => some s
  | .object [(s, j)] => if isNothing allowEmpty j then some s else none
  | _ => none

/-- One of several things by its keyword. -/
def choice? {α : Type} (allowEmpty : Bool) (keyword : α → String) (all : List α) (j : Json) :
    Option α := do
  let w ← j.word allowEmpty
  all.find? fun a => keyword a == w

/-- A field that may be missing, with a value for that case. A field that is there must have a
value. -/
def orDefault {α : Type} (default : α) (read : Json → Option α) : Option Json → Option α
  | none => some default
  | some j => read j

/-- The members or items of a record as far as they can be read. -/
structure Stream (α : Type) where
  /-- What could be read, in order. -/
  entries : List α
  /-- What follows the record, if it could be read to its end. -/
  left : Option (List Char)

/-- A stream with one more entry in front. -/
def Stream.cons {α : Type} (a : α) (s : Stream α) : Stream α :=
  { s with entries := a :: s.entries }

/-- Read the members of an object one after the other, after its opening brace. Members that are
not wanted are passed over. -/
def streamMembers (wanted : List String) : Nat → List Char → Stream (String × Json)
  | 0, _ => ⟨[], none⟩
  | fuel + 1, cs =>
    match readKey true cs with
    | none => ⟨[], none⟩
    | some (key, rest) =>
      let isWanted := wanted.contains key
      let care : Care := if isWanted then ⟨some (depthLimit - 1)⟩ else Care.loose
      match readValue (2 * rest.length + 2) care rest with
      | none => ⟨[], none⟩
      | some (value, rest) =>
        let tail : Stream (String × Json) :=
          match skipSpace rest with
          | '}' :: left => ⟨[], some left⟩
          | ',' :: more => streamMembers wanted fuel more
          | _ => ⟨[], none⟩
        if isWanted then tail.cons (key, value) else tail

/-- Read the items of an array one after the other, after its opening bracket. -/
def streamItems : Nat → List Char → Stream Json
  | 0, _ => ⟨[], none⟩
  | fuel + 1, cs =>
    match readValue (2 * cs.length + 2) ⟨some (depthLimit - 1)⟩ cs with
    | none => ⟨[], none⟩
    | some (value, rest) =>
      let tail : Stream Json :=
        match skipSpace rest with
        | ']' :: left => ⟨[], some left⟩
        | ',' :: more => streamItems fuel more
        | _ => ⟨[], none⟩
      tail.cons value

/-- Read a record from a text, field by field: items of an array get the names of the fields in
order, and those beyond the last field have no name. -/
def streamRecord (names : List String) (cs : List Char) : Stream (String × Json) :=
  match skipSpace cs with
  | '{' :: rest =>
    match skipSpace rest with
    | '}' :: left => ⟨[], some left⟩
    | _ => streamMembers names (rest.length + 1) rest
  | '[' :: rest =>
    match skipSpace rest with
    | ']' :: left => ⟨[], some left⟩
    | _ =>
      let items := streamItems (rest.length + 1) rest
      if items.entries.length ≤ names.length then ⟨names.zip items.entries, items.left⟩
      else ⟨names.zip items.entries, none⟩
  | _ => ⟨[], none⟩

end SelectorGuard.Json
