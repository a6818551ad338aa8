import Gatehouse.Proofs.Identifier
import Gatehouse.Proofs.Utf8

/-!
# External forms and all other texts

Under a label a text is read exactly if it is the external form of an identifier. Every other text
has a flaw: the label or the underscore is missing, the suffix does not have 25 bytes, one of its
characters is no digit, or its value does not fit 128 bits. All that is said of it is which label
was expected. As a suffix has a fixed length, no text is read under two labels, though one label may
begin with another and an underscore.
-/

namespace Gatehouse

namespace Utf8

/-- Characters of ASCII have a byte each. -/
theorem length_flatMap_of_ascii {cs : List Char} (h : ∀ c ∈ cs, c.toNat < 0x80) :
    (cs.flatMap String.utf8EncodeChar).length = cs.length := by
  induction cs with
  | nil => rfl
  | cons c cs ih =>
    rw [List.forall_mem_cons] at h
    have hle : c.val ≤ 127 := Nat.le_of_lt_succ h.1
    have hone : (String.utf8EncodeChar c).length = 1 := by
      rw [String.length_utf8EncodeChar]
      exact Char.utf8Size_eq_one_iff.2 hle
    rw [List.flatMap_cons, List.length_append, hone, ih h.2, List.length_cons, Nat.add_comm]

end Utf8

/-! ## Numbers of 128 bits -/

namespace Uuid

theorem ofNat?_eq_some_iff {n : Nat} {id : Uuid} : ofNat? n = some id ↔ id.toNat = n := by
  obtain ⟨m, hm⟩ := id
  rw [ofNat?]
  constructor
  · intro h
    split at h
    · exact congrArg toNat (Option.some.inj h).symm
    · cases h
  · rintro rfl
    exact dif_pos hm

theorem ofNat?_eq_none_iff {n : Nat} : ofNat? n = none ↔ Limit.bits128 ≤ n := by
  by_cases h : n < Limit.bits128
  · simp [ofNat?, h]
  · simp [ofNat?, h, Nat.not_lt.1 h]

end Uuid

namespace IdFormat

/-! ## Suffixes -/

/-- The characters that suffixes are written with: the digits and small letters of ASCII. -/
def IsDigit (c : Char) : Prop :=
  ('0' ≤ c ∧ c ≤ '9') ∨ ('a' ≤ c ∧ c ≤ 'z')

theorem exists_digitValue?_iff {c : Char} : (∃ n, digitValue? c = some n) ↔ IsDigit c := by
  rw [digitValue?, IsDigit]
  by_cases hdigit : '0' ≤ c ∧ c ≤ '9'
  · simp [hdigit]
  · by_cases hletter : 'a' ≤ c ∧ c ≤ 'z'
    · simp [hdigit, hletter]
    · simp [hdigit, hletter]

theorem IsDigit.toNat_lt {c : Char} (h : IsDigit c) : c.toNat < 0x80 := by
  rcases h with ⟨-, h⟩ | ⟨-, h⟩
  · exact Nat.lt_of_le_of_lt h (by decide)
  · exact Nat.lt_of_le_of_lt h (by decide)

theorem isDigit_of_mem_suffix {id : Uuid} {c : Char} (h : c ∈ suffix id) : IsDigit c := by
  obtain ⟨n, hn, rfl⟩ := List.mem_map.1 h
  have hlt : n < 36 := Positional.lt_of_mem_digits (by decide) hn
  exact exists_digitValue?_iff.1 ⟨n, digitValue?_digitChar hlt⟩

/-- Digits have values, and so write a number. -/
theorem exists_values {cs : List Char} (h : ∀ c ∈ cs, IsDigit c) :
    ∃ ds, cs.mapM digitValue? = some ds := by
  induction cs with
  | nil => exact ⟨[], rfl⟩
  | cons c cs ih =>
    rw [List.forall_mem_cons] at h
    obtain ⟨d, hd⟩ := exists_digitValue?_iff.2 h.1
    obtain ⟨ds, hds⟩ := ih h.2
    exact ⟨d :: ds, Traversal.mapM_eq_some_iff.2 (.cons hd (Traversal.mapM_eq_some_iff.1 hds))⟩

/-- The digits of an identifier write its value. -/
theorem ofDigits_of_suffix {id : Uuid} {ds : List Nat}
    (h : (suffix id).mapM digitValue? = some ds) : Positional.ofDigits 36 ds = id.toNat := by
  have hread := ofSuffix?_suffix id
  rw [ofSuffix?_eq, if_pos (length_suffix id), h, Option.bind_some] at hread
  exact (Uuid.ofNat?_eq_some_iff.1 hread).symm

/-! ## Flaws -/

/-- What keeps a text from being an external form under a label. -/
inductive Flaw (f : IdFormat) (s : String) : Prop where
  /-- It does not begin with the label. -/
  | label (h : ¬f.label.toList <+: s.toList)
  /-- There is no underscore behind the label. -/
  | underscore (rest : String) (hs : s = f.label ++ rest) (h : rest.toList.head? ≠ some '_')
  /-- The suffix does not have 25 bytes. -/
  | length (text : String) (hs : s = f.label ++ "_" ++ text) (h : (Utf8.encode text).length ≠ 25)
  /-- A character of the suffix is no digit. -/
  | digit (text : String) (hs : s = f.label ++ "_" ++ text) (c : Char) (hc : c ∈ text.toList)
      (h : ¬IsDigit c)
  /-- The number that the suffix writes does not fit 128 bits. -/
  | value (text : String) (hs : s = f.label ++ "_" ++ text) (ds : List Nat)
      (hds : text.toList.mapM digitValue? = some ds)
      (h : Limit.bits128 ≤ Positional.ofDigits 36 ds)

theorem format_eq (f : IdFormat) (id : Uuid) :
    f.format id = f.label ++ "_" ++ String.ofList (suffix id) := by
  rw [← String.toList_inj, toList_format]
  simp

/-- What stands behind label and underscore of an external form is the suffix. -/
theorem eq_suffix_of_eq_format {f : IdFormat} {id : Uuid} {text : String}
    (h : f.label ++ "_" ++ text = f.format id) : text.toList = suffix id := by
  have htext := congrArg String.toList h
  rw [format_eq, String.toList_append (s := f.label ++ "_"),
    String.toList_append (s := f.label ++ "_"), String.toList_ofList] at htext
  exact List.append_cancel_left htext

theorem Flaw.ne_format {f : IdFormat} {s : String} (h : f.Flaw s) (id : Uuid) :
    s ≠ f.format id := by
  rintro rfl
  cases h with
  | label h =>
    rw [toList_format] at h
    exact h (List.prefix_append _ _)
  | underscore rest hs h =>
    rw [← String.toList_inj, toList_format, String.toList_append] at hs
    rw [← List.append_cancel_left hs] at h
    exact h rfl
  | length text hs h =>
    have hsuffix := eq_suffix_of_eq_format hs.symm
    have hascii : ∀ c ∈ text.toList, c.toNat < 0x80 := by
      rw [hsuffix]
      exact fun c hc => (isDigit_of_mem_suffix hc).toNat_lt
    rw [Utf8.encode, Utf8.length_flatMap_of_ascii hascii, hsuffix, length_suffix] at h
    exact h rfl
  | digit text hs c hc h =>
    rw [eq_suffix_of_eq_format hs.symm] at hc
    exact h (isDigit_of_mem_suffix hc)
  | value text hs ds hds h =>
    rw [eq_suffix_of_eq_format hs.symm] at hds
    rw [ofDigits_of_suffix hds] at h
    exact Nat.not_le.2 id.isLt h

/-- A text without a flaw is an external form. -/
theorem exists_format_of_not_flaw {f : IdFormat} {s : String} (h : ¬f.Flaw s) :
    ∃ id, s = f.format id := by
  -- The flaws are excluded in the order in which a text is read.
  have hlabel : f.label.toList <+: s.toList := by
    by_contra hno
    exact h (.label hno)
  obtain ⟨rest, hrest⟩ := hlabel
  have hs : s = f.label ++ String.ofList rest := by
    rw [← String.toList_inj, ← hrest, String.toList_append, String.toList_ofList]
  cases rest with
  | nil => exact absurd (.underscore (.ofList []) hs (by simp)) h
  | cons c cs =>
    have hunderscore : c = '_' := by
      by_contra hne
      exact h (.underscore (.ofList (c :: cs)) hs (by simpa using hne))
    subst hunderscore
    have hs' : s = f.label ++ "_" ++ String.ofList cs := by
      rw [hs, ← String.toList_inj]
      simp
    have hdigits : ∀ c ∈ cs, IsDigit c := by
      intro c hc
      by_contra hno
      exact h (.digit _ hs' c (by simpa using hc) hno)
    have hlength : cs.length = suffixLength := by
      by_contra hne
      refine h (.length _ hs' fun hbytes => hne ?_)
      rwa [Utf8.encode, String.toList_ofList,
        Utf8.length_flatMap_of_ascii fun c hc => (hdigits c hc).toNat_lt] at hbytes
    obtain ⟨ds, hds⟩ := exists_values hdigits
    have hfits : Positional.ofDigits 36 ds < Limit.bits128 := by
      by_contra hlarge
      exact h (.value _ hs' ds (by simpa using hds) (Nat.not_lt.1 hlarge))
    have hread : ofSuffix? cs = some ⟨_, hfits⟩ := by
      rw [ofSuffix?_eq, if_pos hlength, hds]
      exact Uuid.ofNat?_eq_some_iff.2 rfl
    refine ⟨⟨_, hfits⟩, ?_⟩
    rw [hs', format_eq, eq_suffix_of_ofSuffix? hread]

/-- A text is refused exactly if it has a flaw, and what is said is the label that was expected. -/
theorem parse_eq_error_iff_flaw {f : IdFormat} {s : String} {e : InvalidId} :
    f.parse s = .error e ↔ e = ⟨f.label⟩ ∧ f.Flaw s := by
  rw [parse_eq_error_iff]
  refine and_congr_right fun _ => ⟨fun h => ?_, fun h => h.ne_format⟩
  by_contra hno
  obtain ⟨id, hid⟩ := exists_format_of_not_flaw hno
  exact h id hid

/-! ## Two labels -/

/-- External forms are the same only of one identifier under one label, whichever labels there are:
the suffix is what the last 25 characters are. -/
theorem format_eq_format_iff {f g : IdFormat} {id id' : Uuid} :
    f.format id = g.format id' ↔ f = g ∧ id = id' := by
  constructor
  · intro h
    have htext := congrArg String.toList h
    rw [toList_format, toList_format] at htext
    have hlength : ('_' :: suffix id).length = ('_' :: suffix id').length := by
      rw [List.length_cons, List.length_cons, length_suffix, length_suffix]
    obtain ⟨hlabel, -⟩ := List.append_inj' htext hlength
    obtain rfl : f = g := by
      cases f
      cases g
      exact congrArg IdFormat.mk (String.toList_inj.1 hlabel)
    exact ⟨rfl, f.format_injective h⟩
  · rintro ⟨rfl, rfl⟩
    rfl

/-! ## Reading -/

/-- **External ids.** Under a label exactly the external forms are read, each as its identifier.
Every other text has a flaw, and is refused with the label that was expected. The checks that each
digit goes through on its way into 128 bits refuse exactly the numbers that do not fit. An external form
under one label is read under another only if the labels are one, and then as the identifier that it
was written for. -/
theorem parse_exact (f : IdFormat) :
    (∀ s id, f.parse s = .ok id ↔ s = f.format id) ∧
    (∀ s e, f.parse s = .error e ↔ e = ⟨f.label⟩ ∧ f.Flaw s) ∧
    (∀ (cs : List Char) (ds : List Nat), cs.mapM digitValue? = some ds →
      (∀ value, cs.foldlM pushDigit? (.ofNat 0) = some value ↔
        value.toNat = Positional.ofDigits 36 ds) ∧
      (cs.foldlM pushDigit? (.ofNat 0) = none ↔ Limit.bits128 ≤ Positional.ofDigits 36 ds)) ∧
    ∀ (g : IdFormat) (id id' : Uuid), g.parse (f.format id) = .ok id' ↔ f = g ∧ id = id' := by
  refine ⟨fun s id => parse_eq_ok_iff, fun s e => parse_eq_error_iff_flaw, fun cs ds hds => ?_,
    fun g id id' => ?_⟩
  · rw [foldlM_pushDigit?, hds, Option.bind_some]
    exact ⟨fun value => Uuid.ofNat?_eq_some_iff, Uuid.ofNat?_eq_none_iff⟩
  · rw [parse_eq_ok_iff, format_eq_format_iff]

/-- The greatest number of 128 bits is read, and the one after it is refused. -/
theorem parse_exact_greatest :
    user.parse "user_f5lxx1zz5pnorynqglhzmsp33" = .ok (.ofNat (Limit.bits128 - 1)) ∧
      user.parse "user_f5lxx1zz5pnorynqglhzmsp34" = .error ⟨"user"⟩ ∧
      "f5lxx1zz5pnorynqglhzmsp34".toList.foldlM pushDigit? (.ofNat 0) = none := by
  obtain ⟨hread, hrefused, hchecked, -⟩ := parse_exact user
  have hvalues : "f5lxx1zz5pnorynqglhzmsp34".toList.mapM digitValue? = some
      [15, 5, 21, 33, 33, 1, 35, 35, 5, 25, 23, 24, 27, 34, 23, 26, 16, 21, 17, 35, 22, 28, 25, 3,
        4] := by
    decide +kernel
  have hlarge : Limit.bits128 ≤ Positional.ofDigits 36
      [15, 5, 21, 33, 33, 1, 35, 35, 5, 25, 23, 24, 27, 34, 23, 26, 16, 21, 17, 35, 22, 28, 25, 3,
        4] := by
    decide +kernel
  refine ⟨(hread _ _).2 (by decide +kernel), (hrefused _ _).2 ⟨rfl, ?_⟩,
    (hchecked _ _ hvalues).2.2 hlarge⟩
  exact .value "f5lxx1zz5pnorynqglhzmsp34" (by decide +kernel) _ hvalues hlarge

end IdFormat
end Gatehouse
