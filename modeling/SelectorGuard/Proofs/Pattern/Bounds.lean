import SelectorGuard.Proofs.Pattern.Search
import SelectorGuard.Pattern.Reader

/-!
# What the reader makes of one part

Every step of the reader changes the open levels in one of five ways. From this it follows by
induction that the loops of a pattern that is read have their bounds in order, which the search
relies on.
-/

namespace SelectorGuard.Pattern

/-- A part that is read on its own, without parts of its own. -/
inductive Part.IsSimple : Part → Prop
  /-- Flags. -/
  | flags : IsSimple .flags
  /-- A character of a set. -/
  | char (set : CharSet) (depth : Nat) : IsSimple (.piece (.char set) depth)
  /-- A condition. -/
  | anchor (a : Anchor) : IsSimple (.piece (.anchor a) 0)

/-- What a step does to the open levels. -/
inductive Move (s t : Progress) : Prop
  /-- It opens a group. -/
  | opens (mode : Mode) (capturing : Bool) (level : t.level = Level.start mode capturing)
      (outer : t.outer = s.level :: s.outer)
  /-- It closes the innermost group, which becomes a part of the level around it. -/
  | closes (parent : Level) (before : s.outer = parent :: t.outer)
      (level : t.level = parent.add s.level.close)
  /-- It goes on to the next alternative. -/
  | splits (level : t.level = s.level.split) (outer : t.outer = s.outer)
  /-- It adds a simple part, which may have changed the mode. -/
  | adds (mode : Mode) (part : Part) (simple : part.IsSimple)
      (level : t.level = { s.level with mode := mode }.add part) (outer : t.outer = s.outer)
  /-- It repeats the latest part. -/
  | repeats (least : Nat) (most : Option Nat) (lazily : Bool)
      (bounds : ∀ m, most = some m → least ≤ m)
      (level : s.level.repeatLast least most lazily = some t.level) (outer : t.outer = s.outer)

/-- A single part stands for a character of a set or for a condition. -/
theorem Mode.isSimple_of_pattern {m : Mode} {q : Primitive} {p : Pattern}
    (h : m.pattern q = some p) : (Part.piece p 0).IsSimple := by
  cases q with
  | anchor a =>
    cases h
    exact .anchor a
  | _ =>
    obtain ⟨set, -, rfl⟩ := Option.map_eq_some_iff.mp h
    exact .char set 0

/-- The bounds of a counted repetition are in order. -/
theorem bounds_of_readBounds {m : Mode} {cs left : List Char} {least : Nat} {most : Option Nat}
    (h : readBounds m cs = some (least, most, left)) : ∀ k, most = some k → least ≤ k := by
  rintro k rfl
  unfold readBounds at h
  obtain ⟨⟨n, rest⟩, -, h⟩ := Option.bind_eq_some_iff.mp h
  dsimp only at h
  split at h
  · cases h
    exact Nat.le_refl _
  · split at h
    · cases h
    · obtain ⟨⟨upper, behind⟩, -, h⟩ := Option.bind_eq_some_iff.mp h
      split at h
      · split at h
        · next ordered =>
          cases h
          exact ordered
        · cases h
      · cases h
  · cases h

/-- Repeating the latest part repeats it within the given bounds. -/
theorem Move.of_repeatLast {s t : Progress} {least : Nat} {most : Option Nat}
    {rest left : List Char} (bounds : ∀ m, most = some m → least ≤ m)
    (h : s.repeatLast least most rest = some (t, left)) : Move s t := by
  obtain ⟨level, repeated, h⟩ := Option.bind_eq_some_iff.mp h
  cases h
  exact .repeats least most _ bounds repeated rfl

/-- A step does one of the five things. -/
theorem move_of_step {n : Nat} {s t : Progress} {c : Char} {rest left : List Char}
    (h : step n s c rest = some (t, left)) : Move s t := by
  unfold step at h
  dsimp only at h
  split at h
  · -- A parenthesis opens a group or sets flags.
    obtain ⟨⟨opening, behind⟩, -, h⟩ := Option.bind_eq_some_iff.mp h
    split at h
    · cases h
      exact .opens _ _ rfl rfl
    · split at h
      · cases h
      · cases h
        exact .opens _ _ rfl rfl
    · cases h
      exact .opens _ _ rfl rfl
    · cases h
      exact .adds _ _ .flags rfl rfl
  · split at h
    · cases h
    · next parent others outer =>
      cases h
      exact .closes parent outer rfl
  · cases h
    exact .splits rfl rfl
  · obtain ⟨⟨b, inner⟩, -, h⟩ := Option.bind_eq_some_iff.mp h
    obtain ⟨⟨operand, behind⟩, -, h⟩ := Option.bind_eq_some_iff.mp h
    cases h
    exact .adds s.level.mode _ (.char _ _) rfl rfl
  · exact .of_repeatLast (by simp) h
  · exact .of_repeatLast (by simp) h
  · exact .of_repeatLast (by simp) h
  · obtain ⟨⟨least, most, behind⟩, read, h⟩ := Option.bind_eq_some_iff.mp h
    exact .of_repeatLast (bounds_of_readBounds read) h
  · obtain ⟨set, -, h⟩ := Option.bind_eq_some_iff.mp h
    cases h
    exact .adds s.level.mode _ (.char _ _) rfl rfl
  · cases h
    exact .adds s.level.mode _ (.anchor _) rfl rfl
  · cases h
    exact .adds s.level.mode _ (.anchor _) rfl rfl
  · obtain ⟨⟨primitive, behind⟩, -, h⟩ := Option.bind_eq_some_iff.mp h
    obtain ⟨p, meaning, h⟩ := Option.bind_eq_some_iff.mp h
    cases h
    exact .adds s.level.mode _ (Mode.isSimple_of_pattern meaning) rfl rfl
  · obtain ⟨p, meaning, h⟩ := Option.bind_eq_some_iff.mp h
    cases h
    exact .adds s.level.mode _ (Mode.isSimple_of_pattern meaning) rfl rfl

/-! ### Loops with their bounds in order -/

/-- The patterns one after the other have bounds if each of them has. -/
theorem hasBounds_sequence {ps : List Pattern} (h : ∀ p ∈ ps, HasBounds p) :
    HasBounds (sequence ps) := by
  induction ps with
  | nil => exact trivial
  | cons p rest ih =>
    have head := h p List.mem_cons_self
    have tail := ih fun q hq => h q (List.mem_cons_of_mem p hq)
    cases rest with
    | nil => exact head
    | cons q more => exact ⟨head, tail⟩

/-- Any one of the patterns has bounds if each of them has. -/
theorem hasBounds_choice {p : Pattern} {ps : List Pattern} (first : HasBounds p)
    (h : ∀ q ∈ ps, HasBounds q) : HasBounds (choice p ps) := by
  induction ps generalizing p with
  | nil => exact first
  | cons q rest ih =>
    exact ⟨first, ih (h q List.mem_cons_self) fun r hr => h r (List.mem_cons_of_mem q hr)⟩

/-- The loops of what a level has read have their bounds in order. -/
structure Level.Bounded (l : Level) : Prop where
  /-- Those of the finished alternatives. -/
  branches : ∀ b ∈ l.branches, HasBounds b.1
  /-- Those of the current alternative. -/
  parts : ∀ q ∈ l.parts, HasBounds q.pattern

namespace Level.Bounded

variable {l : Level}

/-- Nothing has been read at the start of a level. -/
theorem start (mode : Mode) (capturing : Bool) : (Level.start mode capturing).Bounded :=
  ⟨nofun, nofun⟩

/-- A part can be added, under any mode. -/
theorem add (h : l.Bounded) (mode : Mode) {q : Part} (hq : HasBounds q.pattern) :
    ({ l with mode := mode }.add q).Bounded where
  branches := h.branches
  parts := by
    rintro r hr
    rcases List.mem_cons.mp hr with rfl | hr
    · exact hq
    · exact h.parts r hr

/-- The current alternative has its bounds in order. -/
theorem branch (h : l.Bounded) : HasBounds l.branch.1 := by
  unfold Level.branch
  split
  · exact trivial
  · next part eq => exact h.parts part (eq ▸ List.mem_singleton_self part)
  · refine hasBounds_sequence fun p hp => ?_
    obtain ⟨q, hq, rfl⟩ := List.mem_map.mp hp
    exact h.parts q (List.mem_reverse.mp hq)

/-- The current alternative can be finished. -/
theorem split (h : l.Bounded) : l.split.Bounded where
  branches := by
    rintro b hb
    rcases List.mem_cons.mp hb with rfl | hb
    · exact h.branch
    · exact h.branches b hb
  parts := nofun

/-- All alternatives together have their bounds in order. -/
theorem whole (h : l.Bounded) : HasBounds l.whole.1 := by
  unfold Level.whole
  split
  · exact h.branch
  · next first rest eq =>
    have finished : ∀ b ∈ first :: rest, HasBounds b.1 := by
      intro b hb
      exact h.branches b (List.mem_reverse.mp (eq ▸ hb))
    refine hasBounds_choice (finished first List.mem_cons_self) fun p hp => ?_
    rcases List.mem_append.mp hp with hp | hp
    · obtain ⟨b, hb, rfl⟩ := List.mem_map.mp hp
      exact finished b (List.mem_cons_of_mem first hb)
    · rw [List.mem_singleton.mp hp]
      exact h.branch

/-- The latest part can be repeated within bounds that are in order. -/
theorem repeatLast (h : l.Bounded) {k : Level} {least : Nat} {most : Option Nat} {lazily : Bool}
    (bounds : ∀ m, most = some m → least ≤ m) (eq : l.repeatLast least most lazily = some k) :
    k.Bounded := by
  unfold Level.repeatLast at eq
  split at eq
  · next p depth rest parts =>
    cases eq
    refine ⟨h.branches, fun q hq => ?_⟩
    rcases List.mem_cons.mp hq with rfl | hq
    · have body : HasBounds p := h.parts (.piece p depth) (parts ▸ List.mem_cons_self)
      exact ⟨bounds, body⟩
    · exact h.parts q (parts ▸ List.mem_cons_of_mem _ hq)
  · cases eq

end Level.Bounded

/-- The loops of all that has been read have their bounds in order. -/
def Progress.Bounded (s : Progress) : Prop :=
  ∀ l ∈ s.level :: s.outer, l.Bounded

/-- A step keeps the bounds in order. -/
theorem Move.bounded {s t : Progress} (h : Move s t) (hs : s.Bounded) : t.Bounded := by
  have inner := hs s.level List.mem_cons_self
  have others : ∀ l ∈ s.outer, l.Bounded := fun l hl => hs l (List.mem_cons_of_mem _ hl)
  have put {l : Level} {ls : List Level} (hl : l.Bounded) (hls : ∀ k ∈ ls, k.Bounded) :
      ∀ k ∈ l :: ls, k.Bounded := List.forall_mem_cons.mpr ⟨hl, hls⟩
  rw [Progress.Bounded]
  cases h with
  | opens mode capturing level outer =>
    rw [level, outer]
    exact put (.start mode capturing) hs
  | closes parent before level =>
    rw [before] at others
    rw [level]
    have around := others parent List.mem_cons_self
    exact put (around.add parent.mode (q := s.level.close) inner.whole)
      fun l hl => others l (List.mem_cons_of_mem _ hl)
  | splits level outer =>
    rw [level, outer]
    exact put inner.split others
  | adds mode part simple level outer =>
    rw [level, outer]
    refine put (inner.add mode ?_) others
    cases simple <;> exact trivial
  | repeats least most lazily bounds level outer =>
    rw [outer]
    exact put (inner.repeatLast bounds level) others

/-- What is read has its bounds in order. -/
theorem Reads.hasBounds {n : Nat} {s : Progress} {cs : List Char} {r : Pattern × Nat}
    (h : Reads r n s cs) (hs : s.Bounded) : HasBounds r.1 := by
  induction h with
  | finish finished root whole => exact whole ▸ (hs _ List.mem_cons_self).whole
  | onward start moved more ih => exact ih ((move_of_step moved).bounded hs)

/-- The loops of a pattern that a text spells have their bounds in order. -/
theorem hasBounds_of_parse? {cs : List Char} {p : Pattern} (h : parse? cs = some p) :
    HasBounds p := by
  obtain ⟨⟨q, depth⟩, read, h⟩ := Option.bind_eq_some_iff.mp h
  have bounded : Progress.Bounded ⟨Level.start {} false, [], []⟩ :=
    List.forall_mem_singleton.mpr (.start {} false)
  dsimp only at h
  split at h
  · cases h
    exact (reads_of_readParts read).hasBounds bounded
  · cases h

end SelectorGuard.Pattern
