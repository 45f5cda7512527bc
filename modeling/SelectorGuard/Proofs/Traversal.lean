/-!
# Steps that may fail, and lists

A step gives a result or an error, or it gives something or nothing. Steps one after the other
succeed just if each of them does, and the first one that fails decides the error. This holds of two
steps and of a step for every item of a list. Some facts about plain lists stand behind it.
-/

namespace SelectorGuard

section

variable {ε δ α β γ : Type}

/-! ### Results and errors -/

/-- A computation in two steps succeeds just if both steps do. -/
theorem bind_eq_ok_iff {x : Except ε α} {f : α → Except ε β} {b : β} :
    x >>= f = .ok b ↔ ∃ a, x = .ok a ∧ f a = .ok b := by
  constructor
  · intro h
    cases x with
    | ok a => exact ⟨a, rfl, h⟩
    | error e => cases h
  · rintro ⟨a, rfl, h⟩
    exact h

/-- Another wording of the errors does not make a computation succeed, nor fail. -/
theorem mapError_eq_ok_iff {x : Except ε α} {f : ε → δ} {a : α} :
    x.mapError f = .ok a ↔ x = .ok a := by
  cases x with
  | ok b =>
    constructor
    · intro h
      exact congrArg Except.ok (Except.ok.inj h)
    · intro h
      exact congrArg Except.ok (Except.ok.inj h)
  | error e => exact ⟨nofun, nofun⟩

section

variable {f : α → Except ε β}

/-- Results for all items, from the results for the first and for the others. -/
theorem mapM_cons_eq_ok_iff {x : α} {xs : List α} {zs : List β} :
    (x :: xs).mapM f = .ok zs ↔ ∃ y ys, f x = .ok y ∧ xs.mapM f = .ok ys ∧ zs = y :: ys := by
  rw [List.mapM_cons, bind_eq_ok_iff]
  constructor
  · rintro ⟨y, first, h⟩
    obtain ⟨ys, others, h⟩ := bind_eq_ok_iff.mp h
    cases h
    exact ⟨y, ys, first, others, rfl⟩
  · rintro ⟨y, ys, first, others, rfl⟩
    exact ⟨y, first, bind_eq_ok_iff.mpr ⟨ys, others, rfl⟩⟩

/-- There are results for all items just if there is one for each. -/
theorem exists_mapM_eq_ok_iff {xs : List α} :
    (∃ ys, xs.mapM f = .ok ys) ↔ ∀ x ∈ xs, ∃ y, f x = .ok y := by
  induction xs with
  | nil => exact ⟨fun _ => nofun, fun _ => ⟨[], rfl⟩⟩
  | cons x xs ih =>
    rw [List.forall_mem_cons, ← ih]
    constructor
    · rintro ⟨zs, all⟩
      obtain ⟨y, ys, first, others, -⟩ := mapM_cons_eq_ok_iff.mp all
      exact ⟨⟨y, first⟩, ys, others⟩
    · rintro ⟨⟨y, first⟩, ys, others⟩
      exact ⟨y :: ys, mapM_cons_eq_ok_iff.mpr ⟨y, ys, first, others, rfl⟩⟩

/-- The first item without a result decides the error. -/
theorem mapM_eq_error_of_first {before after : List α} {x : α} {e : ε}
    (earlier : ∀ w ∈ before, ∃ y, f w = .ok y) (h : f x = .error e) :
    (before ++ x :: after).mapM f = .error e := by
  induction before with
  | nil =>
    rw [List.nil_append, List.mapM_cons, h]
    rfl
  | cons w rest ih =>
    obtain ⟨⟨y, first⟩, others⟩ := List.forall_mem_cons.mp earlier
    rw [List.cons_append, List.mapM_cons, first, ih others]
    rfl

/-- Every result comes from an item. -/
theorem exists_of_mem_mapM_ok {xs : List α} {ys : List β} (h : xs.mapM f = .ok ys) :
    ∀ y ∈ ys, ∃ x ∈ xs, f x = .ok y := by
  induction xs generalizing ys with
  | nil =>
    cases h
    exact nofun
  | cons x xs ih =>
    obtain ⟨y, zs, first, others, rfl⟩ := mapM_cons_eq_ok_iff.mp h
    refine List.forall_mem_cons.mpr ⟨⟨x, List.mem_cons_self, first⟩, fun z hz => ?_⟩
    obtain ⟨w, hw, found⟩ := ih others z hz
    exact ⟨w, List.mem_cons_of_mem x hw, found⟩

end

/-! ### Something or nothing -/

/-- Two results are not both there if no two results fit together. -/
theorem eq_none_or_eq_none {a? : Option α} {b? : Option β}
    (h : ∀ a b, a? = some a → b? = some b → False) : a? = none ∨ b? = none := by
  cases a? with
  | none => exact .inl rfl
  | some a =>
    cases b? with
    | none => exact .inr rfl
    | some b => exact (h a b rfl rfl).elim

section

variable {a? : Option α} {b? : Option β} {p : α → Bool} {q : β → Bool} {r : γ → Bool}

/-- Something that is made of one part has a property just if the part has one. -/
theorem exists_bind_iff {make : α → γ} (part : ∀ a, r (make a) = p a) :
    (∃ c, (do return make (← a?)) = some c ∧ r c = true) ↔ ∃ a, a? = some a ∧ p a = true := by
  cases a? <;> simp [part]

/-- Something that is made of two parts has a property just if each part has one. -/
theorem exists_bind_bind_iff {make : α → β → γ} (parts : ∀ a b, r (make a b) = (p a && q b)) :
    (∃ c, (do return make (← a?) (← b?)) = some c ∧ r c = true) ↔
      (∃ a, a? = some a ∧ p a = true) ∧ ∃ b, b? = some b ∧ q b = true := by
  cases a? <;> cases b? <;> simp [parts]

end

/-- What is found for every item comes from some item. -/
theorem exists_of_mem_mapM_some {f : α → Option β} {xs : List α} {ys : List β}
    (h : xs.mapM f = some ys) : ∀ y ∈ ys, ∃ x ∈ xs, f x = some y := by
  induction xs generalizing ys with
  | nil =>
    cases h
    exact nofun
  | cons x xs ih =>
    rw [List.mapM_cons] at h
    obtain ⟨y, hy, h⟩ := Option.bind_eq_some_iff.mp h
    obtain ⟨zs, hzs, h⟩ := Option.bind_eq_some_iff.mp h
    cases h
    refine List.forall_mem_cons.mpr ⟨⟨x, List.mem_cons_self, hy⟩, fun z hz => ?_⟩
    obtain ⟨w, hw, found⟩ := ih hzs z hz
    exact ⟨w, List.mem_cons_of_mem x hw, found⟩

/-- Among functions of which no two give something, the first one that does is the only one. -/
theorem findSome?_eq_some_iff_of_apart {fs : List (α → Option β)} {a : α} {b : β}
    (apart : fs.Pairwise fun f g => f a = none ∨ g a = none) :
    fs.findSome? (fun f => f a) = some b ↔ ∃ f ∈ fs, f a = some b := by
  induction fs with
  | nil => simp
  | cons f rest ih =>
    obtain ⟨first, others⟩ := List.pairwise_cons.mp apart
    simp only [List.findSome?_cons, List.mem_cons, exists_eq_or_imp, ← ih others]
    cases given : f a with
    | none => simp
    | some c =>
      have silent : rest.findSome? (fun g => g a) = none :=
        List.findSome?_eq_none_iff.mpr fun g hg =>
          (first g hg).resolve_left (given ▸ Option.some_ne_none c)
      simp [silent]

/-! ### Lists -/

/-- Lists that give the same one by one give the same one after the other. -/
theorem mapM_eq_of_map_eq {m : Type → Type} [Monad m] [LawfulMonad m] {as bs : List β}
    {f g : β → m α} (h : as.map f = bs.map g) : as.mapM f = bs.mapM g := by
  have each (f : β → m α) (as : List β) : (as.map f).mapM id = as.mapM f := List.mapM_map
  rw [← each, ← each, h]

/-- What holds one by one of the same holds of all or of none. -/
theorem forall_mem_iff_of_map_eq {as bs : List α} {holds : α → Prop}
    (h : as.map holds = bs.map holds) : (∀ a ∈ as, holds a) ↔ ∀ b ∈ bs, holds b := by
  have each (cs : List α) : (∀ c ∈ cs, holds c) ↔ ∀ held ∈ cs.map holds, held := by
    rw [List.forall_mem_map]
  rw [each, each, h]

/-- What holds of two lists one by one holds of a list and itself if it does of its members. -/
theorem forall_zip_self {as : List α} {holds : α × α → Prop} :
    (∀ x ∈ as.zip as, holds x) ↔ ∀ a ∈ as, holds (a, a) := by
  have same : as.zip as = as.map fun a => (a, a) := by
    simpa using List.zip_map' (f := id) (g := id) (l := as)
  rw [same, List.forall_mem_map]

/-- Of two lists of one length both are empty, or neither is. -/
theorem isEmpty_eq_of_length_eq {as bs : List α} (h : as.length = bs.length) :
    as.isEmpty = bs.isEmpty := by
  rw [Bool.eq_iff_iff, List.isEmpty_iff_length_eq_zero, List.isEmpty_iff_length_eq_zero, h]

/-- Two lists that go on with no member of a class after their runs of such members have the same
run and go on in the same way. -/
theorem run_append_inj {p : α → Bool} {run other tail rest : List α}
    (hn : ∀ a ∈ run, p a = true) (ho : ∀ a ∈ other, p a = true) (ht : tail.takeWhile p = [])
    (hr : rest.takeWhile p = []) (h : run ++ tail = other ++ rest) : run = other ∧ tail = rest := by
  have runs : run = other := by
    have taken := congrArg (List.takeWhile p) h
    rwa [List.takeWhile_append_of_pos hn, List.takeWhile_append_of_pos ho, ht, hr,
      List.append_nil, List.append_nil] at taken
  exact ⟨runs, List.append_cancel_left (runs ▸ h)⟩

/-- The maximum of numbers up to a bound is up to the bound. -/
theorem foldl_max_le {bound start : Nat} {ns : List Nat} (first : start ≤ bound)
    (h : ∀ n ∈ ns, n ≤ bound) : ns.foldl max start ≤ bound := by
  induction ns generalizing start with
  | nil => exact first
  | cons n rest ih =>
    have head := h n List.mem_cons_self
    exact ih (Nat.max_le.mpr ⟨first, head⟩) fun k hk => h k (List.mem_cons_of_mem n hk)

end

end SelectorGuard
