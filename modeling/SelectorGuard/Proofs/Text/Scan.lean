import SelectorGuard.Proofs.Text.Quoted

/-!
# Scanning a text for brackets

A scanner that knows nothing of query text but its literals goes through it from left to right. A
quote opens a literal, inside which a backslash protects the character after it and the next quote
that is not protected closes it. The brackets that stand outside literals are the structure that a
text shows before anything in it is understood. Texts that end outside literals are scanned part by
part.
-/

namespace SelectorGuard.Text

/-- Where a scanner stands. -/
inductive Scan where
  /-- Outside literals. -/
  | outside
  /-- Inside a literal. -/
  | inside
  /-- Inside a literal behind a backslash. -/
  | escaped
deriving DecidableEq, Repr

/-- The characters that enclose parts of a query. -/
def isBracket (c : Char) : Bool :=
  ['(', ')', '[', ']', '{', '}'].contains c

namespace Scan

/-- Where the scanner stands behind the next character. -/
def next : Scan → Char → Scan
  | outside, c => if c = '"' then inside else outside
  | inside, c => if c = '"' then outside else if c = '\\' then escaped else inside
  | escaped, _ => inside

/-- Where the scanner stands behind a text. -/
def after (s : Scan) (cs : List Char) : Scan :=
  cs.foldl next s

/-- The brackets of a text that the scanner meets outside literals, in order. -/
def brackets : Scan → List Char → List Char
  | _, [] => []
  | s, c :: rest =>
    if s = outside ∧ isBracket c = true then c :: brackets (s.next c) rest
    else brackets (s.next c) rest

/-- The scanner goes through two texts one after the other. -/
theorem after_append (s : Scan) (cs ds : List Char) : s.after (cs ++ ds) = (s.after cs).after ds :=
  List.foldl_append

/-- The brackets of two texts are those of the first one, and those of the second one met from where
the first one ends. -/
theorem brackets_append (s : Scan) (cs ds : List Char) :
    s.brackets (cs ++ ds) = s.brackets cs ++ (s.after cs).brackets ds := by
  induction cs generalizing s with
  | nil => rfl
  | cons c rest ih =>
    have step : s.after (c :: rest) = (s.next c).after rest := rfl
    rw [List.cons_append, brackets, brackets, ih, step]
    split <;> rfl

/-- A text with no effect on what is scanned around it: it ends outside literals when it starts
there, and it shows no bracket. -/
def Quiet (cs : List Char) : Prop :=
  outside.after cs = outside ∧ outside.brackets cs = []

instance (cs : List Char) : Decidable (Quiet cs) :=
  inferInstanceAs (Decidable (_ ∧ _))

namespace Quiet

variable {cs ds : List Char}

/-- Two texts without effect have none together. -/
theorem append (hc : Quiet cs) (hd : Quiet ds) : Quiet (cs ++ ds) := by
  constructor
  · rw [after_append, hc.1, hd.1]
  · rw [brackets_append, hc.1, hc.2, hd.2, List.append_nil]

/-- A text of characters that are neither quotes nor brackets has no effect. -/
theorem of_forall (h : ∀ c ∈ cs, c ≠ '"' ∧ isBracket c = false) : Quiet cs := by
  induction cs with
  | nil => exact ⟨rfl, rfl⟩
  | cons c rest ih =>
    obtain ⟨quote, bracket⟩ := h c List.mem_cons_self
    have stays : outside.next c = outside := if_neg quote
    have tail := ih fun d hd => h d (List.mem_cons_of_mem c hd)
    constructor
    · rw [after, List.foldl_cons, stays]
      exact tail.1
    · rw [brackets, bracket, stays, if_neg (by simp)]
      exact tail.2

end Quiet

/-- The scanner stays outside literals at a bracket. -/
theorem next_outside_of_isBracket {c : Char} (h : isBracket c = true) : outside.next c = outside := by
  refine if_neg ?_
  rintro rfl
  cases h

/-- A pair of brackets around a text that ends outside literals adds itself to the brackets that the
text shows. -/
theorem enclosed {opening closing : Char} {cs : List Char} (ho : isBracket opening = true)
    (hc : isBracket closing = true) (h : outside.after cs = outside) :
    outside.after (opening :: cs ++ [closing]) = outside ∧
      outside.brackets (opening :: cs ++ [closing]) =
        opening :: outside.brackets cs ++ [closing] := by
  have opens := next_outside_of_isBracket ho
  have closes := next_outside_of_isBracket hc
  have start : outside.after (opening :: cs) = outside := by
    rw [after, List.foldl_cons, opens]
    exact h
  constructor
  · rw [after_append, start]
    exact closes
  · rw [brackets_append, start, brackets, if_pos ⟨rfl, ho⟩, opens]
    simp [brackets, hc]

/-! ### Literals -/

/-- A character that stands for itself inside a literal leaves the scanner there. -/
theorem next_inside {c : Char} (quote : c ≠ '"') (backslash : c ≠ '\\') : inside.next c = inside := by
  rw [next, if_neg quote, if_neg backslash]

/-- A hexadecimal digit is neither a quote nor a backslash. -/
theorem next_inside_hexDigit (n : Nat) : inside.next (hexDigit n) = inside := by
  have digits : ∀ k < 16, inside.next (Nat.digitChar k) = inside := by decide
  exact digits (n % 16) (Nat.mod_lt n (by decide))

/-- The spelling of a character keeps the scanner inside the literal. -/
theorem escape_inside (c : Char) :
    inside.after (Quoted.escape c) = inside ∧ inside.brackets (Quoted.escape c) = [] := by
  unfold Quoted.escape
  split
  · exact ⟨rfl, rfl⟩
  split
  · exact ⟨rfl, rfl⟩
  split
  · exact ⟨rfl, rfl⟩
  split
  · exact ⟨rfl, rfl⟩
  split
  · exact ⟨rfl, rfl⟩
  split
  · have backslash : inside.next '\\' = escaped := rfl
    have letter : escaped.next 'u' = inside := rfl
    constructor
    · simp only [hexFour, after, List.foldl_cons, List.foldl_nil, backslash, letter,
        next_inside_hexDigit]
    · simp only [hexFour, brackets, backslash, letter, next_inside_hexDigit, reduceCtorEq,
        false_and, if_false]
  · next quote backslash _ _ _ _ => exact ⟨next_inside quote backslash, rfl⟩

/-- The spelling of a text keeps the scanner inside the literal. -/
theorem flatMap_escape_inside (cs : List Char) :
    inside.after (cs.flatMap Quoted.escape) = inside ∧
      inside.brackets (cs.flatMap Quoted.escape) = [] := by
  induction cs with
  | nil => exact ⟨rfl, rfl⟩
  | cons c rest ih =>
    have first := escape_inside c
    constructor
    · rw [List.flatMap_cons, after_append, first.1, ih.1]
    · rw [List.flatMap_cons, brackets_append, first.1, first.2, ih.2, List.append_nil]

/-- A literal has no effect on what is scanned around it, whatever it denotes. -/
theorem quiet_encode (cs : List Char) : Quiet (Quoted.encode cs) := by
  have body := flatMap_escape_inside cs
  have opened : outside.next '"' = inside := rfl
  have bare : ¬ (outside = outside ∧ isBracket '"' = true) := by decide
  constructor
  · rw [Quoted.encode, after, List.foldl_cons, opened]
    change inside.after _ = outside
    rw [after_append, body.1]
    rfl
  · rw [Quoted.encode, brackets, if_neg bare, opened, brackets_append, body.1, body.2]
    rfl

end Scan

/-! ### Nesting -/

/-- Brackets that are properly nested: each one is closed by one of its kind, and what stands
between the two is properly nested. -/
inductive Nested : List Char → Prop
  | nil : Nested []
  | append {bs cs : List Char} : Nested bs → Nested cs → Nested (bs ++ cs)
  | round {bs : List Char} : Nested bs → Nested ('(' :: bs ++ [')'])
  | square {bs : List Char} : Nested bs → Nested ('[' :: bs ++ [']'])
  | curly {bs : List Char} : Nested bs → Nested ('{' :: bs ++ ['}'])

end SelectorGuard.Text
