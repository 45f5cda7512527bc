import SelectorGuard.Proofs.Json.Spelling

/-!
# Only spellings are read

Whatever the reader accepts is a spelling of the document that it gives, in front of what is left.
So the texts that are read as a document are exactly those that write it, as long as it fits; every
other text is refused, however close it comes.
-/

namespace SelectorGuard.Json

variable {cs left : List Char}

/-- Space stands in front of what is left when it has been dropped. -/
theorem exists_gap_of_skipSpace {rest : List Char} (h : skipSpace cs = rest) :
    ∃ gap, Gap gap ∧ cs = gap ++ rest :=
  ⟨cs.takeWhile isSpace, List.all_eq_true.mp List.all_takeWhile,
    h ▸ List.takeWhile_append_dropWhile.symm⟩

/-- A number that is read is spelled in front of what is left. -/
theorem exists_append_of_readNumber {strict : Bool} {j : Json}
    (h : readNumber strict cs = some (j, left)) :
    ∃ front, cs = front ++ left ∧ Spells (some j) front := by
  obtain ⟨⟨n, rest⟩, read, h⟩ := Option.bind_eq_some_iff.mp h
  dsimp only at h
  split at h
  · cases h
  · cases h
    obtain ⟨front, eq, spelled⟩ := Numeral.exists_append_of_read? read
    exact ⟨front, eq, .number spelled⟩

/-- A text between quotes that is read is spelled in front of what is left. -/
theorem exists_append_of_readString {s : String} (h : readString true cs = some (s, left)) :
    ∃ name text, cs = '"' :: name ++ left ∧ SpellsText (some text) name ∧
      String.ofList text = s := by
  unfold readString at h
  split at h
  · obtain ⟨⟨text, left⟩, read, h⟩ := Option.map_eq_some_iff.mp h
    cases h
    obtain ⟨name, rfl, spelled⟩ := exists_append_of_readStringBody read
    exact ⟨name, text, rfl, spelled, rfl⟩
  · cases h

/-- A name that is read is spelled, with a colon behind it, in front of what is left. -/
theorem exists_append_of_readKey {key : String} (h : readKey true cs = some (key, left)) :
    ∃ front name back text, Gap front ∧ SpellsText (some text) name ∧ Gap back ∧
      cs = front ++ '"' :: name ++ (back ++ ':' :: left) ∧ String.ofList text = key := by
  obtain ⟨⟨s, rest⟩, read, h⟩ := Option.bind_eq_some_iff.mp h
  dsimp only at h
  split at h
  · next colon =>
    cases h
    obtain ⟨front, hf, eq⟩ := exists_gap_of_skipSpace (rfl : skipSpace cs = _)
    obtain ⟨name, text, quoted, spelled, same⟩ := exists_append_of_readString read
    obtain ⟨back, hb, rfl⟩ := exists_gap_of_skipSpace colon
    rw [quoted, ← List.append_assoc] at eq
    exact ⟨front, name, back, text, hf, spelled, hb, eq, same⟩
  · cases h

mutual

/-- What is read as a document is one of its spellings, behind space. -/
theorem exists_append_of_readValue : ∀ {fuel depth : Nat} {cs left : List Char} {j : Json},
    readValue fuel ⟨some depth⟩ cs = some (j, left) →
      ∃ gap front, Gap gap ∧ cs = gap ++ (front ++ left) ∧ Spells (some j) front
  | 0, _, _, _, _, h => by cases h
  | fuel + 1, depth, cs, left, j, h => by
    obtain ⟨gap, hg, eq⟩ := exists_gap_of_skipSpace (rfl : skipSpace cs = _)
    suffices ∃ front, skipSpace cs = front ++ left ∧ Spells (some j) front by
      obtain ⟨front, same, spelled⟩ := this
      exact ⟨gap, front, hg, same ▸ eq, spelled⟩
    rw [readValue] at h
    clear eq
    generalize skipSpace cs = start at h
    split at h
    · cases h
      exact ⟨_, rfl, .null⟩
    · cases h
      exact ⟨_, rfl, .bool true⟩
    · cases h
      exact ⟨_, rfl, .bool false⟩
    · next rest =>
      obtain ⟨⟨s, left⟩, read, h⟩ := Option.map_eq_some_iff.mp h
      cases h
      obtain ⟨name, text, eq, spelled, rfl⟩ := exists_append_of_readString read
      exact ⟨_, eq, .string spelled⟩
    · next rest =>
      obtain ⟨inner, enter, h⟩ := Option.bind_eq_some_iff.mp h
      cases depth with
      | zero => cases enter
      | succ depth =>
        cases enter
        split at h
        · next close =>
          cases h
          obtain ⟨gap, hg, rfl⟩ := exists_gap_of_skipSpace close
          exact ⟨_, by simp, .emptyArray hg⟩
        · obtain ⟨⟨items, left⟩, read, h⟩ := Option.bind_eq_some_iff.mp h
          cases h
          obtain ⟨front, rfl, spelled⟩ := exists_append_of_readItems read
          exact ⟨_, rfl, .array spelled⟩
    · next rest =>
      obtain ⟨inner, enter, h⟩ := Option.bind_eq_some_iff.mp h
      cases depth with
      | zero => cases enter
      | succ depth =>
        cases enter
        split at h
        · next close =>
          cases h
          obtain ⟨gap, hg, rfl⟩ := exists_gap_of_skipSpace close
          exact ⟨_, by simp, .emptyObject hg⟩
        · obtain ⟨⟨members, left⟩, read, h⟩ := Option.bind_eq_some_iff.mp h
          cases h
          obtain ⟨front, rfl, spelled⟩ := exists_append_of_readMembers read
          exact ⟨_, rfl, .object spelled⟩
    · exact exists_append_of_readNumber h

/-- What is read as items is one of their spellings. -/
theorem exists_append_of_readItems : ∀ {fuel depth : Nat} {cs left : List Char}
    {items : List Json}, readItems fuel ⟨some depth⟩ cs = some (items, left) →
      ∃ front, cs = front ++ left ∧ SpellsItems (some items) front
  | 0, _, _, _, _, h => by cases h
  | fuel + 1, depth, cs, left, items, h => by
    rw [readItems] at h
    obtain ⟨⟨j, rest⟩, first, follows⟩ := Option.bind_eq_some_iff.mp h
    obtain ⟨before, front, hb, rfl, spelled⟩ := exists_append_of_readValue first
    dsimp only at follows
    split at follows
    · next close =>
      cases follows
      obtain ⟨after, ha, rfl⟩ := exists_gap_of_skipSpace close
      exact ⟨_, by simp, .last hb spelled ha⟩
    · next comma =>
      obtain ⟨⟨others, left⟩, read, follows⟩ := Option.bind_eq_some_iff.mp follows
      cases follows
      obtain ⟨after, ha, rfl⟩ := exists_gap_of_skipSpace comma
      obtain ⟨more, rfl, behind⟩ := exists_append_of_readItems read
      exact ⟨_, by simp, .cons hb spelled ha behind⟩
    · cases follows

/-- What is read as members is one of their spellings. -/
theorem exists_append_of_readMembers : ∀ {fuel depth : Nat} {cs left : List Char}
    {members : List (String × Json)}, readMembers fuel ⟨some depth⟩ cs = some (members, left) →
      ∃ front, cs = front ++ left ∧ SpellsMembers (some members) front
  | 0, _, _, _, _, h => by cases h
  | fuel + 1, depth, cs, left, members, h => by
    rw [readMembers] at h
    obtain ⟨⟨key, rest⟩, name, value⟩ := Option.bind_eq_some_iff.mp h
    obtain ⟨⟨j, rest'⟩, first, follows⟩ := Option.bind_eq_some_iff.mp value
    obtain ⟨front, quoted, back, text, hf, hn, hk, rfl, rfl⟩ := exists_append_of_readKey name
    obtain ⟨before, held, hb, rfl, spelled⟩ := exists_append_of_readValue first
    dsimp only at follows
    split at follows
    · next close =>
      cases follows
      obtain ⟨after, ha, rfl⟩ := exists_gap_of_skipSpace close
      exact ⟨_, by simp, .last hf hn hk hb spelled ha⟩
    · next comma =>
      obtain ⟨⟨others, left⟩, read, follows⟩ := Option.bind_eq_some_iff.mp follows
      cases follows
      obtain ⟨after, ha, rfl⟩ := exists_gap_of_skipSpace comma
      obtain ⟨more, rfl, behind⟩ := exists_append_of_readMembers read
      exact ⟨_, by simp, .cons hf hn hk hb spelled ha behind⟩
    · cases follows

end

/-- A text is read as a document just if it writes the document and this fits. -/
theorem read?_eq_some_iff {text : String} {j : Json} :
    read? text = some j ↔ Writes (some j) text.toList ∧ Fits depthLimit j := by
  have accepts (written : Writes (some j) text.toList) :
      read? text = some j ↔ Fits depthLimit j := by
    obtain ⟨left, space, read⟩ := exists_readPrefix_of_writes written
    rw [read?, read, taken_some]
    by_cases fits : Fits depthLimit j
    · simp [fits, space]
    · simp [fits]
  refine ⟨fun h => ?_, fun h => (accepts h.1).mpr h.2⟩
  have written : Writes (some j) text.toList := by
    obtain ⟨⟨j', left⟩, read, given⟩ := Option.bind_eq_some_iff.mp h
    obtain ⟨before, front, hb, eq, spelled⟩ := exists_append_of_readValue read
    dsimp only at given
    split at given
    · next space =>
      cases given
      rw [eq]
      exact .intro hb spelled (List.all_eq_true.mp space)
    · cases given
  exact ⟨written, (accepts written).mp h⟩

end SelectorGuard.Json
