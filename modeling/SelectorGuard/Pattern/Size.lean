import SelectorGuard.Pattern.Extent
import SelectorGuard.Pattern.Layout

/-!
# The size of a pattern

A pattern is run by two machines over the UTF-8 form of a text, one that reads forwards and one that
reads backwards, and is refused when either would take more than ten megabytes. The machine of a
layout is grown part by part: the rounds of a loop are laid out one after the other, each decision
takes a state with its ways out, a remembered group takes a state at each end when reading forwards,
and alternatives that are all literals are merged into a tree by their first bytes.

Growing stops once a machine is too large, so the work is bounded by the limit.
-/

namespace SelectorGuard.Pattern

/-- The largest size that is accepted. -/
def sizeLimit : Nat := 10 * 1024 * 1024

/-- Grow a number of times, unless the machine has become too large. -/
def growTimes (f : Extent → Extent) : Nat → Extent → Extent
  | 0, e => e
  | n + 1, e => if sizeLimit < e.bytes then e else growTimes f n (f e)

/-- Cut a list of words at the empty ones. There is always one piece more than cuts. -/
def pieces : List (List Nat) → List (List (List Nat))
  | [] => [[]]
  | [] :: rest => [] :: pieces rest
  | word :: rest =>
    match pieces rest with
    | piece :: more => (word :: piece) :: more
    | [] => [[word]]

/-- Grow by the tree of words below one node. A word that ends here cuts the words before it from
those behind it, and each piece is one state with a way out for each first byte; words that end
before any other came count once. The node decides between its pieces and the ends of words. A node
below which nothing follows takes no state. -/
def growTree : Nat → List (List Nat) → Extent → Extent
  | 0, _, e => e
  | fuel + 1, words, e =>
    let words :=
      if words.head? = some [] then [] :: words.dropWhile List.isEmpty else words
    if words.all List.isEmpty then e
    else
      let cut := pieces words
      let filled := cut.filter fun piece => !piece.isEmpty
      let e := filled.foldl (fun e piece =>
        let firsts := (piece.filterMap List.head?).eraseDups
        let e := firsts.foldl (fun e b =>
          growTree fuel ((piece.filter fun w => w.head? == some b).map (List.drop 1)) e) e
        e.grow 1 (if firsts.length = 1 then 0 else 8 * firsts.length)) e
      e.grow 1 (4 * (filled.length + (cut.length - 1)))

/-- Grow by alternatives that are literals. -/
def growLiterals (backwards : Bool) (literals : List (List Nat)) (e : Extent) : Extent :=
  let words := literals.map fun chars =>
    let bytes := chars.flatMap utf8
    if backwards then bytes.reverse else bytes
  growTree ((words.map List.length).foldl max 0 + 1) words (e.grow 1 0)

namespace Layout

mutual

/-- Grow by a layout. -/
def grow (backwards : Bool) : Layout → Extent → Extent
  | empty, e => e.grow 1 0
  | anchor _, e => e.grow 1 0
  | literal chars, e => e.grow (chars.foldl (fun n c => n + (utf8 c).length) 0) 0
  | set members sequences, e => growSet backwards members sequences e
  | loop body least most _, e =>
    match least, most with
    | 0, some 1 => (grow backwards body (e.grow 1 8)).grow 1 0
    | 0, none =>
      if consumes? body = some true then grow backwards body (e.grow 1 8)
      else (grow backwards body e).grow 3 16
    | least, none => (growTimes (grow backwards body) least e).grow 1 8
    | least, some most =>
      if least = most then growTimes (grow backwards body) least e
      else
        let e := if least = 0 then e.grow 1 0 else growTimes (grow backwards body) least e
        growTimes (fun e => grow backwards body (e.grow 1 8)) (most - least) (e.grow 1 0)
  | capture body, e =>
    if backwards then grow backwards body e else (grow backwards body (e.grow 1 0)).grow 1 0
  | concat ps, e => if backwards then growLastFirst backwards ps e else growInRow backwards ps e
  | choice ps, e =>
    match ps.mapM chars? with
    | some literals => growLiterals backwards literals e
    | none => (growChoice backwards 0 ps e).grow 0 (4 * ps.length)

/-- Grow by parts in a row, the first one first. -/
def growInRow (backwards : Bool) : List Layout → Extent → Extent
  | [], e => e
  | p :: ps, e => growInRow backwards ps (grow backwards p e)

/-- Grow by parts in a row, the last one first. -/
def growLastFirst (backwards : Bool) : List Layout → Extent → Extent
  | [], e => e
  | p :: ps, e => grow backwards p (growLastFirst backwards ps e)

/-- Grow by alternatives, of which a number has been added before. The states for the decision and
for what lies behind it come after the second one. -/
def growChoice (backwards : Bool) : Nat → List Layout → Extent → Extent
  | _, [], e => e
  | before, p :: ps, e =>
    let e := grow backwards p e
    growChoice backwards (before + 1) ps (if before = 1 then e.grow 2 0 else e)

end

/-- The extent of the machine for a layout. A layout that does not begin with the start of the text,
or backwards with its end, is preceded by a loop over any bytes. When reading forwards the whole is
remembered like a group. -/
def extent (backwards : Bool) (l : Layout) : Extent :=
  let isAnchored := if backwards then endsWith .textEnd l else startsWith .textStart l
  let e : Extent := if isAnchored then ⟨1, 0⟩ else ⟨3, 16⟩
  let whole := if backwards then l else .capture l
  (grow backwards whole e).grow 1 0

/-- Whether both machines for a layout keep to the limit. -/
def fits (l : Layout) : Bool :=
  (extent false l).bytes ≤ sizeLimit && (extent true l).bytes ≤ sizeLimit

end Layout

/-- Whether a pattern keeps to the limit. -/
def fits (p : Pattern) : Bool :=
  p.layout.fits

end SelectorGuard.Pattern
