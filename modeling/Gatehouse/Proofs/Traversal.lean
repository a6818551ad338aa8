import Mathlib.Data.List.Forall2

/-!
# Reading lists element by element

A list that is read element by element, each reading with a result or not, is read as a whole
exactly if every element is. The same holds of readings that fail with an error. The prefix that is
taken off a list is what stands before the rest.
-/

namespace Gatehouse.Traversal

variable {α β ε : Type}

/-- Where two lists agree place by place, each element has one that it agrees with. -/
theorem exists_of_mem_left {R : α → β → Prop} {xs : List α} {ys : List β}
    (h : List.Forall₂ R xs ys) : ∀ x ∈ xs, ∃ y ∈ ys, R x y := by
  induction h with
  | nil => exact fun x hx => absurd hx List.not_mem_nil
  | @cons x y xs ys hxy _ ih =>
    intro z hz
    rcases List.mem_cons.1 hz with rfl | hz
    · exact ⟨y, List.mem_cons_self, hxy⟩
    · obtain ⟨y', hy', hzy⟩ := ih z hz
      exact ⟨y', List.mem_cons_of_mem _ hy', hzy⟩

theorem exists_of_mem_right {R : α → β → Prop} {xs : List α} {ys : List β}
    (h : List.Forall₂ R xs ys) : ∀ y ∈ ys, ∃ x ∈ xs, R x y :=
  exists_of_mem_left h.flip

theorem mapM_congr {f g : α → Option β} {xs : List α} (h : ∀ x ∈ xs, f x = g x) :
    xs.mapM f = xs.mapM g := by
  induction xs with
  | nil => rfl
  | cons x xs ih =>
    rw [List.forall_mem_cons] at h
    rw [List.mapM_cons, List.mapM_cons, h.1, ih h.2]

/-- A list is read as another exactly if its elements are read as the other's, in order. -/
theorem mapM_eq_some_iff {f : α → Option β} {xs : List α} {ys : List β} :
    xs.mapM f = some ys ↔ List.Forall₂ (fun x y => f x = some y) xs ys := by
  induction xs generalizing ys with
  | nil => simp [eq_comm]
  | cons x xs ih =>
    rw [List.mapM_cons, List.forall₂_cons_left_iff]
    constructor
    · intro h
      obtain ⟨y, hy, h⟩ := Option.bind_eq_some_iff.mp h
      obtain ⟨rest, hrest, h⟩ := Option.bind_eq_some_iff.mp h
      exact ⟨y, rest, hy, ih.mp hrest, (Option.some.inj h).symm⟩
    · rintro ⟨y, rest, hy, hrest, rfl⟩
      rw [hy, Option.bind_eq_bind, Option.bind_some, ih.mpr hrest]
      rfl

/-- A list is read without failure exactly if its elements are. -/
theorem mapM_eq_ok_iff {f : α → Except ε β} {xs : List α} {ys : List β} :
    xs.mapM f = .ok ys ↔ List.Forall₂ (fun x y => f x = .ok y) xs ys := by
  induction xs generalizing ys with
  | nil =>
    rw [List.mapM_nil, List.forall₂_nil_left_iff]
    exact ⟨fun h => (Except.ok.inj h).symm, fun h => h ▸ rfl⟩
  | cons x xs ih =>
    rw [List.mapM_cons, List.forall₂_cons_left_iff]
    cases hx : f x with
    | error e =>
      constructor
      · intro h
        cases h
      · rintro ⟨y, rest, hy, -, -⟩
        cases hy
    | ok y =>
      constructor
      · intro h
        cases hxs : xs.mapM f with
        | error e =>
          rw [hxs] at h
          cases h
        | ok rest =>
          rw [hxs] at h
          exact ⟨y, rest, rfl, ih.mp hxs, (Except.ok.inj h).symm⟩
      · rintro ⟨y', rest, hy, hrest, rfl⟩
        rw [ih.mpr hrest, Except.ok.inj hy]
        rfl

/-- What is read from a list is what its elements are read as. -/
theorem mem_iff_of_mapM_eq_ok {f : α → Except ε β} {xs : List α} {ys : List β}
    (h : xs.mapM f = .ok ys) {y : β} : y ∈ ys ↔ ∃ x ∈ xs, f x = .ok y := by
  have hall := mapM_eq_ok_iff.mp h
  refine ⟨exists_of_mem_right hall y, ?_⟩
  rintro ⟨x, hx, hxy⟩
  obtain ⟨y', hy', hxy'⟩ := exists_of_mem_left hall x hx
  rwa [Except.ok.inj (hxy.symm.trans hxy')]

/-- Two readings in a row have a result exactly if the first has one and the second has one of
it. -/
theorem bind_eq_ok_iff {r : Except ε α} {f : α → Except ε β} {b : β} :
    (r >>= f) = .ok b ↔ ∃ a, r = .ok a ∧ f a = .ok b := by
  cases r with
  | error e => simp [bind, Except.bind]
  | ok a => simp [bind, Except.bind]

theorem mapError_eq_ok_iff {ε' : Type} {r : Except ε α} {f : ε → ε'} {a : α} :
    r.mapError f = .ok a ↔ r = .ok a := by
  cases r <;> simp [Except.mapError]

/-- If each element can be read, the list can. -/
theorem exists_mapM_eq_ok {f : α → Except ε β} {xs : List α} (h : ∀ x ∈ xs, ∃ y, f x = .ok y) :
    ∃ ys, xs.mapM f = .ok ys := by
  induction xs with
  | nil => exact ⟨[], rfl⟩
  | cons x xs ih =>
    obtain ⟨y, hy⟩ := h x (List.mem_cons_self ..)
    obtain ⟨ys, hys⟩ := ih fun z hz => h z (List.mem_cons_of_mem x hz)
    exact ⟨y :: ys, mapM_eq_ok_iff.mpr (.cons hy (mapM_eq_ok_iff.mp hys))⟩

/-- Changing the results of a reading changes the result of each element. -/
theorem map_mapM {γ : Type} (f : α → Except ε β) (g : β → γ) (xs : List α) :
    (xs.mapM f).map (List.map g) = xs.mapM fun x => (f x).map g := by
  induction xs with
  | nil => rfl
  | cons x xs ih =>
    rw [List.mapM_cons, List.mapM_cons, ← ih]
    rcases f x with e | y
    · rfl
    · rcases xs.mapM f with e | ys
      · rfl
      · rfl

/-- A list of values that can all be written is the written form of a list. -/
theorem exists_map_eq {f : β → α} {xs : List α} (h : ∀ x ∈ xs, ∃ y, f y = x) :
    ∃ ys : List β, ys.map f = xs := by
  induction xs with
  | nil => exact ⟨[], rfl⟩
  | cons x xs ih =>
    rw [List.forall_mem_cons] at h
    obtain ⟨y, hy⟩ := h.1
    obtain ⟨ys, hys⟩ := ih h.2
    exact ⟨y :: ys, by rw [List.map_cons, hy, hys]⟩

/-- What is written element by element is read back without failure. -/
theorem mapM_map_eq_ok {f : α → Except ε β} {g : β → α} (h : ∀ y, f (g y) = .ok y) (ys : List β) :
    (ys.map g).mapM f = .ok ys := by
  rw [mapM_eq_ok_iff, List.forall₂_map_left_iff, List.forall₂_same]
  exact fun y _ => h y

/-- Symbols of an alphabet are read as the values that they stand for. -/
theorem mapM_map_eq_some {value? : α → Option β} {symbol : β → α} {ys : List β}
    (h : ∀ y ∈ ys, value? (symbol y) = some y) : (ys.map symbol).mapM value? = some ys := by
  rw [mapM_eq_some_iff, List.forall₂_map_left_iff, List.forall₂_same]
  exact h

/-- What is read as some values is made of the symbols that stand for them. -/
theorem eq_map_of_mapM_eq_some {value? : α → Option β} {symbol : β → α} {xs : List α} {ys : List β}
    (h : ∀ x y, value? x = some y → x = symbol y) (hxs : xs.mapM value? = some ys) :
    xs = ys.map symbol := by
  have hall := mapM_eq_some_iff.mp hxs
  clear hxs
  induction hall with
  | nil => rfl
  | cons hxy _ ih => rw [List.map_cons, ← ih, h _ _ hxy]

/-- Each value that a list is read as is the value of an element. -/
theorem exists_of_mem_mapM_eq_some {f : α → Option β} {xs : List α} {ys : List β}
    (h : xs.mapM f = some ys) : ∀ y ∈ ys, ∃ x ∈ xs, f x = some y :=
  exists_of_mem_right (mapM_eq_some_iff.mp h)

theorem isPrefixOf?_eq_some_iff [BEq α] [LawfulBEq α] {xs ys rest : List α} :
    xs.isPrefixOf? ys = some rest ↔ ys = xs ++ rest := by
  induction xs generalizing ys with
  | nil => simp [List.isPrefixOf?]
  | cons x xs ih =>
    cases ys with
    | nil => simp [List.isPrefixOf?]
    | cons y ys =>
      by_cases hxy : x = y
      · subst hxy
        simp [List.isPrefixOf?, ih]
      · have hyx : ¬y = x := fun h => hxy h.symm
        simp [List.isPrefixOf?, hxy, hyx]

end Gatehouse.Traversal
