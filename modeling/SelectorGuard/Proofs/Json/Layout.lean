import SelectorGuard.Proofs.Json.Spelling

/-!
# Documents are read as they are written

The text of a document in one line and its text over several lines are two of its spellings. They
are therefore read alike: as the document, if it fits, and not at all otherwise.
-/

namespace SelectorGuard.Json

/-- No space at all. -/
theorem gap_nil : Gap [] :=
  nofun

/-- A blank is space. -/
theorem gap_blank : Gap [' '] := by
  simp [Gap, isSpace]

/-- A line break and the indentation behind it are space. -/
theorem gap_newline (level : Nat) : Gap (newline level) := by
  intro c hc
  rcases List.mem_cons.mp hc with rfl | hc
  · rfl
  · rw [List.eq_of_mem_replicate hc]
    rfl

/-- A text between quotes spells a document. -/
theorem spells_stringChars (s : String) : Spells (some (.string s)) (stringChars s) := by
  have text := Spells.string (spellsText_flatMap_escape s.toList)
  rwa [Option.map_some, String.ofList_toList] at text

/-- The last item in front of the bracket. -/
theorem spellsItems_singleton {j : Json} {before cs after : List Char} (hb : Gap before)
    (h : Spells (some j) cs) (ha : Gap after) :
    SpellsItems (some [j]) (before ++ cs ++ (after ++ [']'])) :=
  .last hb h ha

/-- An item in front of others. -/
theorem SpellsItems.item {items : List Json} {more : List Char}
    (hr : SpellsItems (some items) more) {j : Json} {before cs : List Char} (hb : Gap before)
    (h : Spells (some j) cs) : SpellsItems (some (j :: items)) (before ++ cs ++ ',' :: more) :=
  .cons hb h gap_nil hr

/-- The last member in front of the brace. -/
theorem spellsMembers_singleton (key : String) {j : Json} {front before cs after : List Char}
    (hf : Gap front) (hb : Gap before) (h : Spells (some j) cs) (ha : Gap after) :
    SpellsMembers (some [(key, j)])
      (front ++ stringChars key ++ ':' :: (before ++ cs ++ (after ++ ['}']))) := by
  have only := SpellsMembers.last hf (spellsText_flatMap_escape key.toList) gap_nil hb h ha
  rwa [Option.bind_some, Option.map_some, String.ofList_toList] at only

/-- A member in front of others. -/
theorem SpellsMembers.member {members : List (String × Json)} {more : List Char}
    (hr : SpellsMembers (some members) more) (key : String) {j : Json}
    {front before cs : List Char} (hf : Gap front) (hb : Gap before) (h : Spells (some j) cs) :
    SpellsMembers (some ((key, j) :: members))
      (front ++ stringChars key ++ ':' :: (before ++ cs ++ ',' :: more)) := by
  have first := SpellsMembers.cons hf (spellsText_flatMap_escape key.toList) gap_nil hb h gap_nil hr
  rwa [Option.bind_some, Option.bind_some, Option.map_some, String.ofList_toList] at first

mutual

/-- The text in one line spells the document. -/
theorem spells_chars : ∀ {j : Json}, (∀ n ∈ j.numerals, n.WellFormed) → Spells (some j) j.chars
  | .null, _ => .null
  | .bool b, _ => .bool b
  | .number n, h => .number (h n List.mem_cons_self).spells_chars
  | .string s, _ => spells_stringChars s
  | .array [], _ => .emptyArray gap_nil
  | .array (j :: rest), h => .array (spells_itemsChars (List.cons_ne_nil j rest) h)
  | .object [], _ => .emptyObject gap_nil
  | .object (m :: rest), h => .object (spells_membersChars (List.cons_ne_nil m rest) h)

/-- Items in one line, and the bracket behind them. -/
theorem spells_itemsChars : ∀ {items : List Json}, items ≠ [] →
    (∀ n ∈ itemsNumerals items, n.WellFormed) → SpellsItems (some items) (itemsChars items ++ [']'])
  | [], ne, _ => absurd rfl ne
  | [j], _, h =>
    spellsItems_singleton gap_nil (spells_chars fun n hn => h n (List.mem_append_left _ hn)) gap_nil
  | j :: j' :: rest, _, h => by
    have first := spells_chars (j := j) fun n hn => h n (List.mem_append_left _ hn)
    have others := spells_itemsChars (List.cons_ne_nil j' rest) fun n hn =>
      h n (List.mem_append_right _ hn)
    rw [itemsChars, List.append_assoc]
    · exact others.item gap_nil first
    · exact List.cons_ne_nil j' rest

/-- Members in one line, and the brace behind them. -/
theorem spells_membersChars : ∀ {members : List (String × Json)}, members ≠ [] →
    (∀ n ∈ membersNumerals members, n.WellFormed) →
      SpellsMembers (some members) (membersChars members ++ ['}'])
  | [], ne, _ => absurd rfl ne
  | [(key, j)], _, h => by
    have only := spells_chars (j := j) fun n hn => h n (List.mem_append_left _ hn)
    rw [membersChars, List.append_assoc]
    exact spellsMembers_singleton key gap_nil gap_nil only gap_nil
  | (key, j) :: m :: rest, _, h => by
    have first := spells_chars (j := j) fun n hn => h n (List.mem_append_left _ hn)
    have others := spells_membersChars (List.cons_ne_nil m rest) fun n hn =>
      h n (List.mem_append_right _ hn)
    rw [membersChars]
    · simp only [List.append_assoc, List.cons_append]
      exact others.member key gap_nil gap_nil first
    · exact List.cons_ne_nil m rest

end

mutual

/-- The text over several lines spells the document. -/
theorem spells_prettyChars : ∀ {j : Json} (level : Nat), (∀ n ∈ j.numerals, n.WellFormed) →
    Spells (some j) (j.prettyChars level)
  | .null, _, _ => .null
  | .bool b, _, _ => .bool b
  | .number n, _, h => .number (h n List.mem_cons_self).spells_chars
  | .string s, _, _ => spells_stringChars s
  | .array [], _, _ => .emptyArray gap_nil
  | .array (j :: rest), level, h => by
    have items := spells_prettyItems level (List.cons_ne_nil j rest) h
    rw [prettyChars, List.append_assoc]
    exact .array items
  | .object [], _, _ => .emptyObject gap_nil
  | .object (m :: rest), level, h => by
    have members := spells_prettyMembers level (List.cons_ne_nil m rest) h
    rw [prettyChars, List.append_assoc]
    exact .object members

/-- Items on lines of their own, and the bracket on the line behind them. -/
theorem spells_prettyItems : ∀ {items : List Json} (level : Nat), items ≠ [] →
    (∀ n ∈ itemsNumerals items, n.WellFormed) →
      SpellsItems (some items) (prettyItems level items ++ (newline level ++ [']']))
  | [], _, ne, _ => absurd rfl ne
  | [j], level, _, h => by
    have only := spells_prettyChars (j := j) (level + 1) fun n hn =>
      h n (List.mem_append_left _ hn)
    exact spellsItems_singleton (gap_newline (level + 1)) only (gap_newline level)
  | j :: j' :: rest, level, _, h => by
    have first := spells_prettyChars (j := j) (level + 1) fun n hn =>
      h n (List.mem_append_left _ hn)
    have others := spells_prettyItems level (List.cons_ne_nil j' rest) fun n hn =>
      h n (List.mem_append_right _ hn)
    rw [prettyItems, List.append_assoc]
    · exact others.item (gap_newline (level + 1)) first
    · exact List.cons_ne_nil j' rest

/-- Members on lines of their own, and the brace on the line behind them. -/
theorem spells_prettyMembers : ∀ {members : List (String × Json)} (level : Nat), members ≠ [] →
    (∀ n ∈ membersNumerals members, n.WellFormed) →
      SpellsMembers (some members) (prettyMembers level members ++ (newline level ++ ['}']))
  | [], _, ne, _ => absurd rfl ne
  | [(key, j)], level, _, h => by
    have only := spells_prettyChars (j := j) (level + 1) fun n hn =>
      h n (List.mem_append_left _ hn)
    rw [prettyMembers, List.append_assoc]
    exact spellsMembers_singleton key (gap_newline (level + 1)) gap_blank only (gap_newline level)
  | (key, j) :: m :: rest, level, _, h => by
    have first := spells_prettyChars (j := j) (level + 1) fun n hn =>
      h n (List.mem_append_left _ hn)
    have others := spells_prettyMembers level (List.cons_ne_nil m rest) fun n hn =>
      h n (List.mem_append_right _ hn)
    rw [prettyMembers, List.append_assoc, List.append_assoc]
    · exact others.member key (gap_newline (level + 1)) gap_blank first
    · exact List.cons_ne_nil m rest

end

/-- The text of a document in one line writes the document. -/
theorem writes_render {j : Json} (h : ∀ n ∈ j.numerals, n.WellFormed) :
    Writes (some j) j.render.toList := by
  have written := Writes.intro gap_nil (spells_chars h) gap_nil
  rwa [List.nil_append, List.append_nil, ← String.toList_ofList (l := j.chars)] at written

/-- The text of a document in one line is read as the document, just if this fits. -/
theorem readPrefix_render {j : Json} (h : ∀ n ∈ j.numerals, n.WellFormed) :
    readPrefix j.render.toList = if Fits depthLimit j then some (j, []) else none := by
  rw [render, String.toList_ofList]
  exact readPrefix_of_spells (spells_chars h)

/-- The text of a document over several lines is read as the document, just if this fits. -/
theorem readPrefix_renderPretty {j : Json} (h : ∀ n ∈ j.numerals, n.WellFormed) :
    readPrefix j.renderPretty.toList = if Fits depthLimit j then some (j, []) else none := by
  rw [renderPretty, String.toList_ofList]
  exact readPrefix_of_spells (spells_prettyChars 0 h)

end SelectorGuard.Json
