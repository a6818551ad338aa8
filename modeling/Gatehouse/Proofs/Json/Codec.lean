import Gatehouse.Proofs.Session.Wire
import Gatehouse.Proofs.Traversal

/-!
# Codecs

A codec writes values as JSON and reads them back. Its laws are those of one value; that the text of
a value gives the value back, and that a text which can be read is as good as the one that would
have been written in its place, follows for every codec alike.
-/

namespace Gatehouse.Json

variable {α : Type}

/-- A way to write values as JSON and to read them. -/
structure Codec (α : Type) where
  write : α → Json
  read? : Json → Option α
  /-- Values that a reader can hold. -/
  Fits : α → Prop
  read?_write : ∀ {a}, Fits a → read? (write a) = some a
  isSound_write : ∀ {a}, Fits a → (write a).isSound = true
  fits_of_read? : ∀ {j a}, read? j = some a → Fits a

namespace Codec

/-- What a text gives. -/
def parse? (c : Codec α) (text : String) : Option α :=
  (Json.parse? text).bind c.read?

/-- A value that a reader can hold is read back from its text. -/
theorem parse?_render (c : Codec α) {a : α} (h : c.Fits a) :
    c.parse? (c.write a).render = some a := by
  rw [parse?, Json.parse?_render (c.isSound_write h), Option.bind_some, c.read?_write h]

/-- A reader holds whatever a text gives. -/
theorem fits_of_parse? (c : Codec α) {text : String} {a : α} (h : c.parse? text = some a) :
    c.Fits a := by
  obtain ⟨_, -, hread⟩ := Option.bind_eq_some_iff.1 h
  exact c.fits_of_read? hread

/-! ## Texts, times and lists -/

/-- Texts. -/
def text : Codec String where
  write := str
  read? := text?
  Fits _ := True
  read?_write _ := rfl
  isSound_write _ := isSound_str _
  fits_of_read? _ := trivial

/-- What is read as an integer of 64 bits fits them. -/
theorem isInt64_of_int64? {j : Json} {n : Int} (h : j.int64? = some n) :
    Limit.isInt64 n = true := by
  obtain ⟨m, -, hm⟩ := Option.bind_eq_some_iff.1 h
  split at hm
  · rename_i hfits
    rwa [← Option.some.inj hm]
  · cases hm

theorem areSound_eq_all (vs : List Json) : areSound vs = vs.all isSound := by
  induction vs with
  | nil => rfl
  | cons v vs ih => rw [areSound, ih, List.all_cons]

/-- Lists, element by element. -/
def list (c : Codec α) : Codec (List α) where
  write as := .array (as.map c.write)
  read? j := j.list? c.read?
  Fits as := ∀ a ∈ as, c.Fits a
  read?_write h := by
    rw [list?]
    exact Traversal.mapM_map_eq_some fun a ha => c.read?_write (h a ha)
  isSound_write h := by
    rw [isSound, areSound_eq_all, List.all_map, List.all_eq_true]
    exact fun a ha => c.isSound_write (h a ha)
  fits_of_read? {j as} h a ha := by
    cases j with
    | array vs =>
      obtain ⟨v, -, hv⟩ := Traversal.exists_of_mem_mapM_eq_some h a ha
      exact c.fits_of_read? hv
    | _ => cases h

end Codec

/-! ## Records -/

/-- An object with the members that are there. -/
def record (ms : List (String × Option Json)) : Json :=
  obj (ms.filterMap fun m => m.2.map fun v => (m.1, v))

/-- A record is sound if the members that are there are. -/
theorem isSound_record {ms : List (String × Option Json)}
    (h : ∀ m ∈ ms, ∀ v, m.2 = some v → v.isSound = true) : (record ms).isSound = true := by
  rw [record, isSound_obj, List.all_eq_true]
  intro m hm
  obtain ⟨⟨key, v?⟩, hmem, hv⟩ := List.mem_filterMap.1 hm
  obtain ⟨v, hv?, rfl⟩ := Option.map_eq_some_iff.1 hv
  exact h _ hmem v hv?

/-- The members of a record as an object holds them. -/
def held (ms : List (String × Option Json)) : List (Option String × Json) :=
  (ms.filterMap fun m => m.2.map fun v => (m.1, v)).map fun m => (some m.1, m.2)

theorem valuesAt_held_cons (m : String × Option Json) (ms : List (String × Option Json))
    (key : String) : valuesAt (held (m :: ms)) key =
      (if m.1 = key then m.2.toList else []) ++ valuesAt (held ms) key := by
  obtain ⟨k, v?⟩ := m
  cases v? with
  | none => simp [held]
  | some v => by_cases hk : k = key <;> simp [held, valuesAt, hk]

theorem valuesAt_held_of_not_mem {ms : List (String × Option Json)} {key : String}
    (h : key ∉ ms.map (·.1)) : valuesAt (held ms) key = [] := by
  induction ms with
  | nil => rfl
  | cons m ms ih =>
    rw [List.map_cons, List.mem_cons, not_or] at h
    rw [valuesAt_held_cons, if_neg (Ne.symm h.1), ih h.2, List.append_nil]

/-- Under a key of its own, a member is the only one. -/
theorem valuesAt_held {ms : List (String × Option Json)} (hkeys : (ms.map (·.1)).Nodup)
    {m : String × Option Json} (hm : m ∈ ms) : valuesAt (held ms) m.1 = m.2.toList := by
  induction ms with
  | nil => cases hm
  | cons n ms ih =>
    rw [List.map_cons, List.nodup_cons] at hkeys
    rw [valuesAt_held_cons]
    rcases List.mem_cons.1 hm with rfl | hm
    · rw [if_pos rfl, valuesAt_held_of_not_mem hkeys.1, List.append_nil]
    · have hne : n.1 ≠ m.1 := fun heq => hkeys.1 (heq ▸ List.mem_map_of_mem hm)
      rw [if_neg hne, ih hkeys.2 hm, List.nil_append]

/-- A member that a declared field reads. -/
def Field.Reads (f : Field) (m : String × Option Json) : Prop :=
  m.1 = f.key ∧ (f.absence = .refused → m.2.isSome)

/-- The declared fields of a record are its members, with nothing in place of those that are left
out. -/
theorem fields?_record {fs : List Field} {ms : List (String × Option Json)}
    (h : List.Forall₂ Field.Reads fs ms) (hkeys : (ms.map (·.1)).Nodup) :
    fields? fs (record ms) = some (ms.map fun m => m.2.getD null) := by
  rw [record, fields?_obj, Traversal.mapM_eq_some_iff, List.forall₂_map_right_iff]
  show List.Forall₂ (fun f m => fieldOfMembers? (held ms) f = some (m.2.getD null)) fs ms
  have hread : ∀ f m, m ∈ ms → f.Reads m →
      fieldOfMembers? (held ms) f = some (m.2.getD null) := by
    rintro f ⟨_, v?⟩ hm ⟨rfl, hpresent⟩
    rw [fieldOfMembers?, valuesAt_held hkeys hm]
    cases v? with
    | some v => rfl
    | none => exact if_neg fun hrefused => Bool.false_ne_true (hpresent hrefused)
  -- Every pair is one of a field and a member of the record.
  have hall : ∀ fs' ms', ms' ⊆ ms → List.Forall₂ Field.Reads fs' ms' →
      List.Forall₂ (fun f m => fieldOfMembers? (held ms) f = some (m.2.getD null)) fs' ms' := by
    intro fs' ms' hsub hpairs
    induction hpairs with
    | nil => exact .nil
    | cons hfirst _ ih =>
      rw [List.cons_subset] at hsub
      exact .cons (hread _ _ hsub.1 hfirst) (ih hsub.2)
  exact hall fs ms (List.Subset.refl _) h

/-- A text that may be left out is read as it was. -/
theorem option?_getD_map_str (s : Option String) :
    ((s.map str).getD null).option? text? = some s := by
  cases s <;> rfl

end Gatehouse.Json
