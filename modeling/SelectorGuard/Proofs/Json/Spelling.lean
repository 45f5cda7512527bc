import SelectorGuard.Proofs.Decimal.Numeral
import SelectorGuard.Proofs.Json.Text

/-!
# Every spelling of a document is read as the document

A document has many spellings, which differ in the space between its parts, in the escapes of its
texts and in the exponents of its numbers. Each of them is read as the document itself, if arrays
and objects stand in each other no deeper than they may and all numbers are in range, and it is
refused otherwise. A text with a surrogate that stands alone spells no document, and is refused as
well.
-/

namespace SelectorGuard

/-- A number is in range if it is whole with 64 bits or can be read in double precision. -/
def Numeral.inRange (n : Numeral) : Bool :=
  n.toWord?.isSome || n.toFloat?.isSome

namespace Json

mutual

/-- The numbers of a document in order. -/
def numerals : Json → List Numeral
  | .array items => itemsNumerals items
  | .object members => membersNumerals members
  | .number n => [n]
  | .null | .bool _ | .string _ => []

/-- The numbers of the items of a list. -/
def itemsNumerals : List Json → List Numeral
  | [] => []
  | j :: rest => numerals j ++ itemsNumerals rest

/-- The numbers of the members of an object. -/
def membersNumerals : List (String × Json) → List Numeral
  | [] => []
  | (_, j) :: rest => numerals j ++ membersNumerals rest

end

/-- Only space. -/
def Gap (cs : List Char) : Prop :=
  ∀ c ∈ cs, isSpace c = true

mutual

/-- A text spells a document, without space around it. It spells none if a surrogate in it stands
alone, but is a text by the same grammar. -/
inductive Spells : Option Json → List Char → Prop where
  | null : Spells (some .null) (atomChars .null)
  | bool (b : Bool) : Spells (some (.bool b)) (atomChars (.bool b))
  | number {n : Numeral} {cs : List Char} (h : n.Spells cs) : Spells (some (.number n)) cs
  | string {text? : Option (List Char)} {cs : List Char} (h : SpellsText text? cs) :
    Spells (text?.map fun text => .string (String.ofList text)) ('"' :: cs)
  | emptyArray {gap : List Char} (hg : Gap gap) : Spells (some (.array [])) ('[' :: gap ++ [']'])
  | array {items? : Option (List Json)} {cs : List Char} (h : SpellsItems items? cs) :
    Spells (items?.map .array) ('[' :: cs)
  | emptyObject {gap : List Char} (hg : Gap gap) : Spells (some (.object [])) ('{' :: gap ++ ['}'])
  | object {members? : Option (List (String × Json))} {cs : List Char}
    (h : SpellsMembers members? cs) : Spells (members?.map .object) ('{' :: cs)

/-- A text spells items, of which there is at least one, and the bracket behind them. -/
inductive SpellsItems : Option (List Json) → List Char → Prop where
  | last {j? : Option Json} {before cs after : List Char} (hb : Gap before) (h : Spells j? cs)
    (ha : Gap after) : SpellsItems (j?.map ([·])) (before ++ cs ++ (after ++ [']']))
  | cons {j? : Option Json} {rest? : Option (List Json)} {before cs after more : List Char}
    (hb : Gap before) (h : Spells j? cs) (ha : Gap after) (hr : SpellsItems rest? more) :
    SpellsItems (j?.bind fun j => rest?.map (j :: ·)) (before ++ cs ++ (after ++ ',' :: more))

/-- A text spells members, of which there is at least one, and the brace behind them. -/
inductive SpellsMembers : Option (List (String × Json)) → List Char → Prop where
  | last {key? : Option (List Char)} {j? : Option Json}
    {front name back before cs after : List Char} (hf : Gap front) (hn : SpellsText key? name)
    (hk : Gap back) (hb : Gap before) (h : Spells j? cs) (ha : Gap after) :
    SpellsMembers (key?.bind fun key => j?.map fun j => [(String.ofList key, j)])
      (front ++ '"' :: name ++ (back ++ ':' :: (before ++ cs ++ (after ++ ['}']))))
  | cons {key? : Option (List Char)} {j? : Option Json} {rest? : Option (List (String × Json))}
    {front name back before cs after more : List Char} (hf : Gap front)
    (hn : SpellsText key? name) (hk : Gap back) (hb : Gap before) (h : Spells j? cs)
    (ha : Gap after) (hr : SpellsMembers rest? more) :
    SpellsMembers
      (key?.bind fun key => j?.bind fun j => rest?.map ((String.ofList key, j) :: ·))
      (front ++ '"' :: name ++ (back ++ ':' :: (before ++ cs ++ (after ++ ',' :: more))))

end

/-- A document that the reader accepts at a depth: arrays and objects go no deeper, and the numbers
are in range. -/
def Fits (depth : Nat) (j : Json) : Prop :=
  j.depth ≤ depth ∧ ∀ n ∈ j.numerals, n.inRange = true

/-- Items that the reader accepts at a depth. -/
def ItemsFit (depth : Nat) (items : List Json) : Prop :=
  itemsDepth items ≤ depth ∧ ∀ n ∈ itemsNumerals items, n.inRange = true

/-- Members that the reader accepts at a depth. -/
def MembersFit (depth : Nat) (members : List (String × Json)) : Prop :=
  membersDepth members ≤ depth ∧ ∀ n ∈ membersNumerals members, n.inRange = true

instance (depth : Nat) (j : Json) : Decidable (Fits depth j) :=
  inferInstanceAs (Decidable (_ ∧ _))

instance (depth : Nat) (items : List Json) : Decidable (ItemsFit depth items) :=
  inferInstanceAs (Decidable (_ ∧ _))

instance (depth : Nat) (members : List (String × Json)) : Decidable (MembersFit depth members) :=
  inferInstanceAs (Decidable (_ ∧ _))

/-! ### Space -/

/-- Space in front is dropped. -/
theorem skipSpace_append {gap : List Char} (h : Gap gap) (cs : List Char) :
    skipSpace (gap ++ cs) = skipSpace cs :=
  List.dropWhile_append_of_pos h

/-- Nothing is dropped where there is no space. -/
theorem skipSpace_cons {c : Char} (h : isSpace c = false) (cs : List Char) :
    skipSpace (c :: cs) = c :: cs :=
  List.dropWhile_cons_of_neg (Bool.eq_false_iff.mp h)

/-- Space ends a numeral. -/
theorem ends_of_gap {gap : List Char} (h : Gap gap) : Numeral.Ends gap := by
  intro c hc
  have space := h c (List.mem_of_head? hc)
  simp only [isSpace, Bool.or_eq_true, beq_iff_eq] at space
  rcases space with ((rfl | rfl) | rfl) | rfl <;> decide

/-- Space ends a numeral, and so does the sign behind it. -/
theorem ends_gap_append {gap : List Char} (h : Gap gap) {c : Char} (stops : Numeral.Stops c)
    (cs : List Char) : Numeral.Ends (gap ++ c :: cs) := by
  cases gap with
  | nil => exact Numeral.ends_cons stops cs
  | cons d gap => exact Numeral.ends_cons (ends_of_gap h d rfl) _

/-- No numeral starts with space. -/
theorem isSpace_of_start {c : Char} (h : c.isDigit = true ∨ c = '-') : isSpace c = false := by
  rw [Bool.eq_false_iff]
  intro space
  simp only [isSpace, Bool.or_eq_true, beq_iff_eq] at space
  rcases space with ((rfl | rfl) | rfl) | rfl <;> exact absurd h (by decide)

/-- A spelling starts with a character that is neither space nor a bracket that closes. -/
theorem Spells.exists_cons {j? : Option Json} {cs : List Char} (h : Spells j? cs) :
    ∃ c tail, cs = c :: tail ∧ isSpace c = false ∧ c ≠ ']' := by
  cases h with
  | null => exact ⟨_, _, rfl, by decide⟩
  | bool b => cases b <;> exact ⟨_, _, rfl, by decide⟩
  | number h =>
    obtain ⟨c, tail, eq, start⟩ := h.exists_cons
    refine ⟨c, tail, eq, isSpace_of_start start, ?_⟩
    rintro rfl
    exact absurd start (by decide)
  | string => exact ⟨_, _, rfl, by decide⟩
  | emptyArray => exact ⟨_, _, rfl, by decide⟩
  | array => exact ⟨_, _, rfl, by decide⟩
  | emptyObject => exact ⟨_, _, rfl, by decide⟩
  | object => exact ⟨_, _, rfl, by decide⟩

/-! ### Reading -/

/-- A document without parts and without numbers fits everywhere. -/
theorem fits_of_bare {j : Json} (hd : j.depth = 0) (hn : j.numerals = []) (depth : Nat) :
    Fits depth j := by
  simp [Fits, hd, hn]

/-- An array fits where its items fit one level below. -/
theorem fits_array_succ {depth : Nat} {items : List Json} :
    Fits (depth + 1) (.array items) ↔ ItemsFit depth items := by
  simp [Fits, ItemsFit, Json.depth, numerals]

/-- An object fits where its members fit one level below. -/
theorem fits_object_succ {depth : Nat} {members : List (String × Json)} :
    Fits (depth + 1) (.object members) ↔ MembersFit depth members := by
  simp [Fits, MembersFit, Json.depth, numerals]

/-- Items fit if each of them does. -/
theorem itemsFit_cons {depth : Nat} {j : Json} {rest : List Json} :
    ItemsFit depth (j :: rest) ↔ Fits depth j ∧ ItemsFit depth rest := by
  simp only [ItemsFit, Fits, itemsDepth, itemsNumerals, Nat.max_le, List.mem_append, or_imp,
    forall_and]
  tauto

/-- Members fit if each of them does. -/
theorem membersFit_cons {depth : Nat} {key : String} {j : Json} {rest : List (String × Json)} :
    MembersFit depth ((key, j) :: rest) ↔ Fits depth j ∧ MembersFit depth rest := by
  simp only [MembersFit, Fits, membersDepth, membersNumerals, Nat.max_le, List.mem_append, or_imp,
    forall_and]
  tauto

/-- A single item fits if it does in the list. -/
theorem itemsFit_singleton {depth : Nat} {j : Json} : ItemsFit depth [j] ↔ Fits depth j := by
  simp [ItemsFit, Fits, itemsDepth, itemsNumerals]

/-- A single member fits if it does in the object. -/
theorem membersFit_singleton {depth : Nat} {key : String} {j : Json} :
    MembersFit depth [(key, j)] ↔ Fits depth j := by
  simp [MembersFit, Fits, membersDepth, membersNumerals]

/-- Items fit just if each of them does, however many there are. -/
theorem itemsFit_iff {depth : Nat} {items : List Json} :
    ItemsFit depth items ↔ ∀ j ∈ items, Fits depth j := by
  induction items with
  | nil => exact iff_of_true ⟨Nat.zero_le depth, nofun⟩ nofun
  | cons j rest ih => rw [itemsFit_cons, ih, List.forall_mem_cons]

/-- Members fit just if what each of them holds does, however many there are. -/
theorem membersFit_iff {depth : Nat} {members : List (String × Json)} :
    MembersFit depth members ↔ ∀ m ∈ members, Fits depth m.2 := by
  induction members with
  | nil => exact iff_of_true ⟨Nat.zero_le depth, nofun⟩ nofun
  | cons m rest ih => rw [membersFit_cons, ih, List.forall_mem_cons]

/-- An array fits only where something may stand in it. -/
theorem not_fits_array_zero {items : List Json} : ¬ Fits 0 (.array items) :=
  fun fits => Nat.not_succ_le_zero _ fits.1

/-- An object fits only where something may stand in it. -/
theorem not_fits_object_zero {members : List (String × Json)} : ¬ Fits 0 (.object members) :=
  fun fits => Nat.not_succ_le_zero _ fits.1

/-- A document is read from behind the space in front of it. -/
theorem readValue_gap_append {gap : List Char} (h : Gap gap) (fuel : Nat) (care : Care)
    (cs : List Char) : readValue fuel care (gap ++ cs) = readValue fuel care cs := by
  cases fuel with
  | zero => rfl
  | succ fuel => rw [readValue, readValue, skipSpace_append h]

/-- What is taken from the front of a text, if there is something and it fits, and what is left. -/
def taken {α : Type} (fits : α → Prop) [DecidablePred fits] (a? : Option α) (left : List Char) :
    Option (α × List Char) :=
  a?.bind fun a => if fits a then some (a, left) else none

/-- Something that is there is taken if it fits. -/
theorem taken_some {α : Type} {fits : α → Prop} [DecidablePred fits] (a : α) (left : List Char) :
    taken fits (some a) left = if fits a then some (a, left) else none :=
  rfl

/-- A document without parts and without numbers is taken. -/
theorem taken_of_bare {j : Json} (hd : j.depth = 0) (hn : j.numerals = []) (depth : Nat)
    (left : List Char) : taken (Fits depth) (some j) left = some (j, left) :=
  if_pos (fits_of_bare hd hn depth)

/-- A number is read if it is in range. -/
theorem readValue_number {n : Numeral} {cs : List Char} (h : n.Spells cs) {rest : List Char}
    (ends : Numeral.Ends rest) (fuel depth : Nat) :
    readValue (fuel + 1) ⟨some depth⟩ (cs ++ rest) =
      taken (Fits depth) (some (.number n)) rest := by
  obtain ⟨c, tail, eq, start⟩ := h.exists_cons
  -- the first character is that of no other kind
  have number : readValue (fuel + 1) ⟨some depth⟩ (cs ++ rest) = readNumber true (cs ++ rest) := by
    rw [readValue, eq, List.cons_append, skipSpace_cons (isSpace_of_start start)]
    split
    case h_7 => rfl
    all_goals
      next same =>
        rw [(List.cons.inj same).1] at start
        exact absurd start (by decide)
  have range : Fits depth (.number n) ↔ n.inRange = true := by
    simp [Fits, Json.depth, numerals]
  rw [number, readNumber, Numeral.read?_append_of_spells h ends, taken_some]
  simp only [range, Numeral.inRange, Bool.true_and, Option.bind_eq_bind, Option.bind_some,
    Option.pure_def]
  cases n.toWord? <;> cases n.toFloat? <;> rfl

/-- A text between quotes is read. -/
theorem readString_append_of_spells {text? : Option (List Char)} {cs : List Char}
    (h : SpellsText text? cs) (rest : List Char) :
    readString true ('"' :: cs ++ rest) =
      text?.map fun text => (String.ofList text, rest) := by
  rw [List.cons_append, readString, readStringBody_append_of_spells h, Option.map_map]
  rfl

/-- A text is read as a document. -/
theorem readValue_string {text? : Option (List Char)} {cs : List Char} (h : SpellsText text? cs)
    (rest : List Char) (fuel depth : Nat) :
    readValue (fuel + 1) ⟨some depth⟩ ('"' :: cs ++ rest) =
      taken (Fits depth) (text?.map fun text => .string (String.ofList text)) rest := by
  have read := readString_append_of_spells h rest
  rw [List.cons_append] at read ⊢
  rw [readValue, skipSpace_cons (by decide)]
  refine (congrArg (Option.map fun r => (Json.string r.1, r.2)) read).trans ?_
  cases text? with
  | none => rfl
  | some text => exact (taken_of_bare rfl rfl depth rest).symm

/-- An empty list is read where a list may stand. -/
theorem readValue_emptyArray {gap : List Char} (hg : Gap gap) (rest : List Char)
    (fuel depth : Nat) :
    readValue (fuel + 1) ⟨some depth⟩ ('[' :: gap ++ [']'] ++ rest) =
      taken (Fits depth) (some (.array [])) rest := by
  have close : skipSpace (gap ++ ']' :: rest) = ']' :: rest := by
    rw [skipSpace_append hg, skipSpace_cons (by decide)]
  simp only [List.cons_append, List.append_assoc, List.nil_append, taken_some]
  rw [readValue, skipSpace_cons (by decide)]
  cases depth with
  | zero => rfl
  | succ depth =>
    rw [if_pos (by simp [Fits, Json.depth, itemsDepth, numerals, itemsNumerals])]
    simp only [Care.enter, close, Option.bind_eq_bind, Option.bind_some]

/-- An empty object is read where an object may stand. -/
theorem readValue_emptyObject {gap : List Char} (hg : Gap gap) (rest : List Char)
    (fuel depth : Nat) :
    readValue (fuel + 1) ⟨some depth⟩ ('{' :: gap ++ ['}'] ++ rest) =
      taken (Fits depth) (some (.object [])) rest := by
  have close : skipSpace (gap ++ '}' :: rest) = '}' :: rest := by
    rw [skipSpace_append hg, skipSpace_cons (by decide)]
  simp only [List.cons_append, List.append_assoc, List.nil_append, taken_some]
  rw [readValue, skipSpace_cons (by decide)]
  cases depth with
  | zero => rfl
  | succ depth =>
    rw [if_pos (by simp [Fits, Json.depth, membersDepth, numerals, membersNumerals])]
    simp only [Care.enter, close, Option.bind_eq_bind, Option.bind_some]

/-- Items do not start with the bracket that closes a list. -/
theorem SpellsItems.skipSpace_ne {items? : Option (List Json)} {cs : List Char}
    (h : SpellsItems items? cs) (rest left : List Char) : skipSpace (cs ++ rest) ≠ ']' :: left := by
  have start {before cs tail : List Char} {j? : Option Json} (hb : Gap before)
      (hj : Spells j? cs) : skipSpace (before ++ (cs ++ tail)) ≠ ']' :: left := by
    obtain ⟨c, more, rfl, space, ne⟩ := hj.exists_cons
    rw [skipSpace_append hb, List.cons_append, skipSpace_cons space]
    exact fun same => ne (List.cons.inj same).1
  cases h with
  | last hb hj ha =>
    simp only [List.append_assoc]
    exact start hb hj
  | cons hb hj ha hr =>
    simp only [List.append_assoc]
    exact start hb hj

/-- Members do not start with the brace that closes an object. -/
theorem SpellsMembers.skipSpace_ne {members? : Option (List (String × Json))} {cs : List Char}
    (h : SpellsMembers members? cs) (rest left : List Char) :
    skipSpace (cs ++ rest) ≠ '}' :: left := by
  have start {front tail : List Char} (hf : Gap front) :
      skipSpace (front ++ '"' :: tail) ≠ '}' :: left := by
    rw [skipSpace_append hf, skipSpace_cons (by decide)]
    exact fun same => absurd (List.cons.inj same).1 (by decide)
  cases h with
  | last hf =>
    simp only [List.append_assoc, List.cons_append]
    exact start hf
  | cons hf =>
    simp only [List.append_assoc, List.cons_append]
    exact start hf

/-- A list is read if its items are. -/
theorem readValue_array {items? : Option (List Json)} {cs : List Char} (h : SpellsItems items? cs)
    {rest : List Char} {fuel : Nat}
    (read : ∀ depth, readItems fuel ⟨some depth⟩ (cs ++ rest) =
      taken (ItemsFit depth) items? rest) (depth : Nat) :
    readValue (fuel + 1) ⟨some depth⟩ ('[' :: cs ++ rest) =
      taken (Fits depth) (items?.map .array) rest := by
  rw [List.cons_append, readValue, skipSpace_cons (by decide)]
  cases depth with
  | zero =>
    cases items? with
    | none => rfl
    | some items =>
      rw [Option.map_some, taken_some, if_neg not_fits_array_zero]
      rfl
  | succ depth =>
    simp only [Care.enter, Option.bind_eq_bind, Option.bind_some]
    split
    · next left same => exact absurd same (h.skipSpace_ne rest left)
    · rw [read]
      cases items? with
      | none => rfl
      | some items =>
        simp only [taken_some, Option.map_some, fits_array_succ]
        split <;> rfl

/-- An object is read if its members are. -/
theorem readValue_object {members? : Option (List (String × Json))} {cs : List Char}
    (h : SpellsMembers members? cs) {rest : List Char} {fuel : Nat}
    (read : ∀ depth, readMembers fuel ⟨some depth⟩ (cs ++ rest) =
      taken (MembersFit depth) members? rest) (depth : Nat) :
    readValue (fuel + 1) ⟨some depth⟩ ('{' :: cs ++ rest) =
      taken (Fits depth) (members?.map .object) rest := by
  rw [List.cons_append, readValue, skipSpace_cons (by decide)]
  cases depth with
  | zero =>
    cases members? with
    | none => rfl
    | some members =>
      rw [Option.map_some, taken_some, if_neg not_fits_object_zero]
      rfl
  | succ depth =>
    simp only [Care.enter, Option.bind_eq_bind, Option.bind_some]
    split
    · next left same => exact absurd same (h.skipSpace_ne rest left)
    · rw [read]
      cases members? with
      | none => rfl
      | some members =>
        simp only [taken_some, Option.map_some, fits_object_succ]
        split <;> rfl

/-- A name is read with the colon behind it. -/
theorem readKey_append {front name back : List Char} (hf : Gap front)
    {key? : Option (List Char)} (hn : SpellsText key? name) (hk : Gap back) (rest : List Char) :
    readKey true (front ++ '"' :: name ++ (back ++ ':' :: rest)) =
      key?.map fun key => (String.ofList key, rest) := by
  have text : skipSpace (front ++ '"' :: name ++ (back ++ ':' :: rest)) =
      '"' :: name ++ (back ++ ':' :: rest) := by
    rw [List.append_assoc, skipSpace_append hf, List.cons_append, skipSpace_cons (by decide)]
  have colon : skipSpace (back ++ ':' :: rest) = ':' :: rest := by
    rw [skipSpace_append hk, skipSpace_cons (by decide)]
  rw [readKey, text, readString_append_of_spells hn]
  cases key? with
  | none => rfl
  | some key => simp only [Option.map_some, Option.bind_eq_bind, Option.bind_some, colon]

/-- The last item is read with the bracket behind it. -/
theorem readItems_last {before cs after rest : List Char} (hb : Gap before) (ha : Gap after)
    {fuel depth : Nat} {j? : Option Json}
    (read : readValue fuel ⟨some depth⟩ (cs ++ (after ++ ']' :: rest)) =
      taken (Fits depth) j? (after ++ ']' :: rest)) :
    readItems (fuel + 1) ⟨some depth⟩ (before ++ cs ++ (after ++ [']']) ++ rest) =
      taken (ItemsFit depth) (j?.map ([·])) rest := by
  have close : skipSpace (after ++ ']' :: rest) = ']' :: rest := by
    rw [skipSpace_append ha, skipSpace_cons (by decide)]
  simp only [List.append_assoc, List.cons_append, List.nil_append]
  rw [readItems, readValue_gap_append hb, read]
  cases j? with
  | none => rfl
  | some j =>
    simp only [taken_some, Option.map_some, itemsFit_singleton]
    split
    · simp only [close, Option.bind_eq_bind, Option.bind_some]
    · rfl

/-- An item is read with the items behind it. -/
theorem readItems_cons {before cs after more rest : List Char} (hb : Gap before) (ha : Gap after)
    {fuel depth : Nat} {j? : Option Json} {items? : Option (List Json)}
    (read : readValue fuel ⟨some depth⟩ (cs ++ (after ++ ',' :: (more ++ rest))) =
      taken (Fits depth) j? (after ++ ',' :: (more ++ rest)))
    (others : readItems fuel ⟨some depth⟩ (more ++ rest) = taken (ItemsFit depth) items? rest) :
    readItems (fuel + 1) ⟨some depth⟩ (before ++ cs ++ (after ++ ',' :: more) ++ rest) =
      taken (ItemsFit depth) (j?.bind fun j => items?.map (j :: ·)) rest := by
  have comma : skipSpace (after ++ ',' :: (more ++ rest)) = ',' :: (more ++ rest) := by
    rw [skipSpace_append ha, skipSpace_cons (by decide)]
  simp only [List.append_assoc, List.cons_append]
  rw [readItems, readValue_gap_append hb, read]
  cases j? with
  | none => rfl
  | some j =>
    rw [taken_some, Option.bind_some]
    by_cases fits : Fits depth j
    · simp only [fits, if_true, comma, others, Option.bind_eq_bind, Option.bind_some]
      cases items? with
      | none => rfl
      | some items =>
        simp only [taken_some, Option.map_some, itemsFit_cons, fits, true_and]
        split <;> rfl
    · rw [if_neg fits]
      cases items? with
      | none => rfl
      | some items => exact (if_neg fun both => fits (itemsFit_cons.mp both).1).symm

/-- The last member is read with the brace behind it. -/
theorem readMembers_last {front name back before cs after rest : List Char} (hf : Gap front)
    {key? : Option (List Char)} (hn : SpellsText key? name) (hk : Gap back) (hb : Gap before)
    (ha : Gap after) {fuel depth : Nat} {j? : Option Json}
    (read : readValue fuel ⟨some depth⟩ (cs ++ (after ++ '}' :: rest)) =
      taken (Fits depth) j? (after ++ '}' :: rest)) :
    readMembers (fuel + 1) ⟨some depth⟩
        (front ++ '"' :: name ++ (back ++ ':' :: (before ++ cs ++ (after ++ ['}']))) ++ rest) =
      taken (MembersFit depth) (key?.bind fun key => j?.map fun j => [(String.ofList key, j)])
        rest := by
  have close : skipSpace (after ++ '}' :: rest) = '}' :: rest := by
    rw [skipSpace_append ha, skipSpace_cons (by decide)]
  have strict : Care.isStrict ⟨some depth⟩ = true := rfl
  rw [List.append_assoc _ _ rest, List.append_assoc back, List.cons_append, readMembers, strict,
    readKey_append hf hn hk]
  simp only [List.append_assoc, List.cons_append, List.nil_append]
  cases key? with
  | none => rfl
  | some key =>
    simp only [Option.map_some, Option.bind_eq_bind, Option.bind_some, readValue_gap_append hb,
      read]
    cases j? with
    | none => rfl
    | some j =>
      simp only [taken_some, Option.map_some, membersFit_singleton]
      split
      · simp only [close, Option.bind_some]
      · rfl

/-- A member is read with the members behind it. -/
theorem readMembers_cons {front name back before cs after more rest : List Char} (hf : Gap front)
    {key? : Option (List Char)} (hn : SpellsText key? name) (hk : Gap back) (hb : Gap before)
    (ha : Gap after) {fuel depth : Nat} {j? : Option Json}
    {members? : Option (List (String × Json))}
    (read : readValue fuel ⟨some depth⟩ (cs ++ (after ++ ',' :: (more ++ rest))) =
      taken (Fits depth) j? (after ++ ',' :: (more ++ rest)))
    (others : readMembers fuel ⟨some depth⟩ (more ++ rest) =
      taken (MembersFit depth) members? rest) :
    readMembers (fuel + 1) ⟨some depth⟩
        (front ++ '"' :: name ++ (back ++ ':' :: (before ++ cs ++ (after ++ ',' :: more))) ++
          rest) =
      taken (MembersFit depth)
        (key?.bind fun key => j?.bind fun j => members?.map ((String.ofList key, j) :: ·))
        rest := by
  have comma : skipSpace (after ++ ',' :: (more ++ rest)) = ',' :: (more ++ rest) := by
    rw [skipSpace_append ha, skipSpace_cons (by decide)]
  have strict : Care.isStrict ⟨some depth⟩ = true := rfl
  rw [List.append_assoc _ _ rest, List.append_assoc back, List.cons_append, readMembers, strict,
    readKey_append hf hn hk]
  simp only [List.append_assoc, List.cons_append]
  cases key? with
  | none => rfl
  | some key =>
    simp only [Option.map_some, Option.bind_eq_bind, Option.bind_some, readValue_gap_append hb,
      read]
    cases j? with
    | none => rfl
    | some j =>
      rw [taken_some, Option.bind_some]
      by_cases fits : Fits depth j
      · simp only [fits, if_true, comma, others, Option.bind_some]
        cases members? with
        | none => rfl
        | some members =>
          simp only [taken_some, Option.map_some, membersFit_cons, fits, true_and]
          split <;> rfl
      · rw [if_neg fits]
        cases members? with
        | none => rfl
        | some members => exact (if_neg fun both => fits (membersFit_cons.mp both).1).symm

mutual

/-- Every spelling of a document is read as the document, just if this fits. -/
theorem readValue_of_spells {j? : Option Json} {cs : List Char} (h : Spells j? cs)
    {rest : List Char} (ends : Numeral.Ends rest) {fuel : Nat} (enough : cs.length ≤ fuel)
    (depth : Nat) : readValue fuel ⟨some depth⟩ (cs ++ rest) = taken (Fits depth) j? rest := by
  obtain ⟨c, tail, start, -⟩ := h.exists_cons
  cases fuel with
  | zero =>
    rw [start] at enough
    exact absurd enough (by simp)
  | succ fuel =>
    cases h with
    | null => exact (taken_of_bare rfl rfl depth rest).symm
    | bool b => cases b <;> exact (taken_of_bare rfl rfl depth rest).symm
    | number h => exact readValue_number h ends fuel depth
    | string h => exact readValue_string h rest fuel depth
    | emptyArray hg => exact readValue_emptyArray hg rest fuel depth
    | array h =>
      exact readValue_array h (readItems_of_spells h (Nat.le_of_succ_le_succ enough)) depth
    | emptyObject hg => exact readValue_emptyObject hg rest fuel depth
    | object h =>
      exact readValue_object h (readMembers_of_spells h (Nat.le_of_succ_le_succ enough)) depth

/-- Every spelling of items is read as the items, just if they fit. -/
theorem readItems_of_spells {items? : Option (List Json)} {cs : List Char}
    (h : SpellsItems items? cs) {rest : List Char} {fuel : Nat} (enough : cs.length ≤ fuel)
    (depth : Nat) :
    readItems fuel ⟨some depth⟩ (cs ++ rest) = taken (ItemsFit depth) items? rest := by
  cases h with
  | last hb hj ha =>
    simp only [List.length_append, List.length_singleton] at enough
    obtain ⟨fuel, rfl⟩ : ∃ more, fuel = more + 1 := ⟨fuel - 1, by omega⟩
    exact readItems_last hb ha
      (readValue_of_spells hj (ends_gap_append ha (by decide) _) (by omega) depth)
  | cons hb hj ha hr =>
    simp only [List.length_append, List.length_cons] at enough
    obtain ⟨fuel, rfl⟩ : ∃ more, fuel = more + 1 := ⟨fuel - 1, by omega⟩
    exact readItems_cons hb ha
      (readValue_of_spells hj (ends_gap_append ha (by decide) _) (by omega) depth)
      (readItems_of_spells hr (by omega) depth)

/-- Every spelling of members is read as the members, just if they fit. -/
theorem readMembers_of_spells {members? : Option (List (String × Json))} {cs : List Char}
    (h : SpellsMembers members? cs) {rest : List Char} {fuel : Nat} (enough : cs.length ≤ fuel)
    (depth : Nat) :
    readMembers fuel ⟨some depth⟩ (cs ++ rest) = taken (MembersFit depth) members? rest := by
  cases h with
  | last hf hn hk hb hj ha =>
    simp only [List.length_append, List.length_cons] at enough
    obtain ⟨fuel, rfl⟩ : ∃ more, fuel = more + 1 := ⟨fuel - 1, by omega⟩
    exact readMembers_last hf hn hk hb ha
      (readValue_of_spells hj (ends_gap_append ha (by decide) _) (by omega) depth)
  | cons hf hn hk hb hj ha hr =>
    simp only [List.length_append, List.length_cons] at enough
    obtain ⟨fuel, rfl⟩ : ∃ more, fuel = more + 1 := ⟨fuel - 1, by omega⟩
    exact readMembers_cons hf hn hk hb ha
      (readValue_of_spells hj (ends_gap_append ha (by decide) _) (by omega) depth)
      (readMembers_of_spells hr (by omega) depth)

end

/-- A text writes a document if it is a spelling of it with nothing but space around. -/
inductive Writes (j? : Option Json) : List Char → Prop where
  | intro {before cs after : List Char} (hb : Gap before) (h : Spells j? cs) (ha : Gap after) :
    Writes j? (before ++ (cs ++ after))

/-- A text that writes a document is read as the document, just if this fits, and only space is
left. -/
theorem exists_readPrefix_of_writes {j? : Option Json} {cs : List Char} (h : Writes j? cs) :
    ∃ left, isEnd left = true ∧ readPrefix cs = taken (Fits depthLimit) j? left := by
  obtain ⟨hb, h, ha⟩ := h
  next before cs after =>
  refine ⟨after, List.all_eq_true.mpr ha, ?_⟩
  rw [readPrefix, readValue_gap_append hb]
  refine readValue_of_spells h (ends_of_gap ha) ?_ depthLimit
  simp only [List.length_append]
  omega

/-- A spelling of a document and nothing else is read as the document, just if this fits. -/
theorem readPrefix_of_spells {j : Json} {cs : List Char} (h : Spells (some j) cs) :
    readPrefix cs = if Fits depthLimit j then some (j, []) else none := by
  have enough : cs.length ≤ 2 * cs.length + 2 := by omega
  have ends : Numeral.Ends [] := nofun
  have read := readValue_of_spells h ends enough depthLimit
  rwa [List.append_nil] at read

end Json

end SelectorGuard
