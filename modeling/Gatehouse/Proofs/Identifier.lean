import Gatehouse.ExternalId
import Gatehouse.Positional.Lemmas
import Gatehouse.Proofs.Octets
import Gatehouse.Proofs.Traversal

/-!
# Written identifiers

The canonical text of an identifier is read back as the identifier, and its bytes are its own. An
external form is read back under its own label, and nothing else is read under it: `IdFormat.parse`
accepts a text exactly if the text is the form that `IdFormat.format` writes.
-/

namespace Gatehouse

/-! ## Canonical text -/

namespace Hex

theorem digitValue?_digitChar {n : Nat} (h : n < 16) : digitValue? (digitChar n) = some n := by
  revert n
  decide

end Hex

namespace Uuid

/-- Five groups of the canonical lengths with hyphens between are read without the hyphens. -/
theorem unhyphenate?_groups {a b c d e : List Char} (ha : a.length = 8) (hb : b.length = 4)
    (hc : c.length = 4) (hd : d.length = 4) (he : e.length = 12) :
    unhyphenate? (a ++ '-' :: (b ++ '-' :: (c ++ '-' :: (d ++ '-' :: e)))) =
      some (a ++ b ++ c ++ d ++ e) := by
  rw [unhyphenate?, if_pos]
  · simp [List.drop_append, List.drop_eq_nil_of_le, ha, hb, hc, hd]
  · simp [ha, hb, hc, hd, he]

theorem unhyphenate?_hyphenate {ds : List Char} (h : ds.length = 32) :
    unhyphenate? (hyphenate ds) = some ds := by
  have h16 : (ds.drop 16).take 4 ++ ds.drop 20 = ds.drop 16 := by
    simpa using List.take_append_drop 4 (ds.drop 16)
  have h12 : (ds.drop 12).take 4 ++ ds.drop 16 = ds.drop 12 := by
    simpa using List.take_append_drop 4 (ds.drop 12)
  have h8 : (ds.drop 8).take 4 ++ ds.drop 12 = ds.drop 8 := by
    simpa using List.take_append_drop 4 (ds.drop 8)
  -- The groups are pieces of one list, and are put together from the last one on.
  rw [hyphenate, unhyphenate?_groups (by simp [h]) (by simp [h]) (by simp [h]) (by simp [h])
    (by simp [h])]
  simp only [List.append_assoc]
  rw [h16, h12, h8, List.take_append_drop]

theorem length_hyphenate {ds : List Char} (h : ds.length = 32) : (hyphenate ds).length = 36 := by
  simp [hyphenate, h]

@[simp] theorem length_hexDigits (id : Uuid) : id.hexDigits.length = 32 := by
  simp [hexDigits]

theorem ofDigits?_hexDigits (id : Uuid) : ofDigits? id.hexDigits = some id := by
  have hread : id.hexDigits.mapM Hex.digitValue? = some (Positional.digits 16 32 id.toNat) :=
    Traversal.mapM_map_eq_some fun d hd =>
      Hex.digitValue?_digitChar (Positional.lt_of_mem_digits (by decide) hd)
  have hlt : id.toNat < 16 ^ 32 := id.isLt
  rw [ofDigits?, hread]
  simp [Positional.ofDigits_digits_of_lt hlt, ofNat?, id.isLt]

/-- The canonical text of an identifier is read back as the identifier. -/
theorem parse?_text (id : Uuid) : parse? id.text = some id := by
  have hlen : (hyphenate id.hexDigits).length = 36 := length_hyphenate (length_hexDigits id)
  rw [parse?, text, String.toList_ofList]
  simp only [hlen]
  rw [ofHyphenated?, unhyphenate?_hyphenate (length_hexDigits id), Option.bind_some,
    ofDigits?_hexDigits]

theorem text_injective {a b : Uuid} (h : a.text = b.text) : a = b := by
  have hread := parse?_text a
  rw [h, parse?_text] at hread
  exact (Option.some.inj hread).symm

@[simp] theorem text_inj {a b : Uuid} : a.text = b.text ↔ a = b :=
  ⟨text_injective, fun h => h ▸ rfl⟩

/-! ## Bytes -/

/-- The bytes of an identifier are sixteen. -/
@[simp] theorem length_toBytes (id : Uuid) : id.toBytes.length = 16 := by
  simp [toBytes, Bytes.ofNat]

theorem toNat_toBytes (id : Uuid) : Bytes.toNat id.toBytes = id.toNat := by
  have hlt : id.toNat < 256 ^ 16 := id.isLt
  exact Bytes.toNat_ofNat hlt

theorem toBytes_injective {a b : Uuid} (h : a.toBytes = b.toBytes) : a = b := by
  have hnat : a.toNat = b.toNat := by
    rw [← toNat_toBytes a, ← toNat_toBytes b, h]
  obtain ⟨m, hm⟩ := a
  obtain ⟨n, hn⟩ := b
  obtain rfl : m = n := hnat
  rfl

end Uuid

/-! ## External forms -/

namespace IdFormat

theorem digitValue?_digitChar {n : Nat} (h : n < 36) : digitValue? (digitChar n) = some n := by
  revert n
  decide

theorem eq_digitChar_of_digitValue? {c : Char} {n : Nat} (h : digitValue? c = some n) :
    n < 36 ∧ c = digitChar n := by
  unfold digitValue? at h
  split at h
  · rename_i hc
    have hlow : 48 ≤ c.toNat := hc.1
    have hhigh : c.toNat ≤ 57 := hc.2
    obtain rfl := Option.some.inj h
    have hback : 48 + (c.toNat - 48) = c.toNat := by omega
    refine ⟨by omega, ?_⟩
    rw [digitChar, if_pos (by omega), hback, Char.ofNat_toNat]
  · split at h
    · rename_i hc
      have hlow : 97 ≤ c.toNat := hc.1
      have hhigh : c.toNat ≤ 122 := hc.2
      obtain rfl := Option.some.inj h
      have hback : 87 + (c.toNat - 87) = c.toNat := by omega
      refine ⟨by omega, ?_⟩
      rw [digitChar, if_neg (by omega), hback, Char.ofNat_toNat]
    · cases h

theorem bits128_le_pow : Limit.bits128 ≤ 36 ^ suffixLength := by decide

@[simp] theorem length_suffix (id : Uuid) : (suffix id).length = suffixLength := by
  simp [suffix]

/-- A step fits exactly if the number with the new digit does: before the digit is added, it is no
larger. -/
theorem pushDigit?_eq (value : Uuid) (c : Char) : pushDigit? value c =
    (digitValue? c).bind fun d => Uuid.ofNat? (value.toNat * 36 + d) := by
  rw [pushDigit?]
  cases digitValue? c with
  | none => rfl
  | some d =>
    by_cases hmoved : value.toNat * 36 < Limit.bits128
    · simp [Uuid.ofNat?, hmoved]
    · have hlarge : ¬value.toNat * 36 + d < Limit.bits128 := by omega
      simp [Uuid.ofNat?, hmoved, hlarge]

/-- Digits are read one after the other, and the value has to fit at each of them. What is read in
the end is their whole number, if that fits: a number does not get smaller by more digits. -/
theorem foldlM_pushDigit? (cs : List Char) : cs.foldlM pushDigit? (.ofNat 0) =
    (cs.mapM digitValue?).bind fun ds => Uuid.ofNat? (Positional.ofDigits 36 ds) := by
  induction cs using List.reverseRecOn with
  | nil => rfl
  | append_singleton cs c ih =>
    have hone : ∀ value : Uuid, [c].foldlM pushDigit? value = pushDigit? value c :=
      fun value => bind_pure _
    rw [List.foldlM_append, ih, List.mapM_append]
    cases cs.mapM digitValue? with
    | none => rfl
    | some ds =>
      by_cases hfits : Positional.ofDigits 36 ds < Limit.bits128
      · cases hd : digitValue? c with
        | none => simp [hone, pushDigit?_eq, hd, Uuid.ofNat?, hfits]
        | some d => simp [hone, pushDigit?_eq, hd, Uuid.ofNat?, hfits]
      -- Once the value does not fit, the whole number does not either.
      · have hlarge : ∀ d, ¬Positional.ofDigits 36 ds * 36 + d < Limit.bits128 := by
          intro d
          omega
        cases hd : digitValue? c with
        | none => simp [hd, Uuid.ofNat?, hfits]
        | some d => simp [hd, Uuid.ofNat?, hfits, hlarge]

/-- 25 digits are read as the identifier whose value they write. -/
theorem ofSuffix?_eq (cs : List Char) : ofSuffix? cs =
    if cs.length = suffixLength then
      (cs.mapM digitValue?).bind fun ds => Uuid.ofNat? (Positional.ofDigits 36 ds)
    else none := by
  rw [ofSuffix?, foldlM_pushDigit?]

theorem ofSuffix?_suffix (id : Uuid) : ofSuffix? (suffix id) = some id := by
  have hlt : id.toNat < 36 ^ suffixLength := Nat.lt_of_lt_of_le id.isLt bits128_le_pow
  have hread : (suffix id).mapM digitValue? = some (Positional.digits 36 suffixLength id.toNat) :=
    Traversal.mapM_map_eq_some fun d hd =>
      digitValue?_digitChar (Positional.lt_of_mem_digits (by decide) hd)
  rw [ofSuffix?_eq, if_pos (length_suffix id), hread]
  simp [Positional.ofDigits_digits_of_lt hlt, Uuid.ofNat?, id.isLt]

theorem eq_suffix_of_ofSuffix? {cs : List Char} {id : Uuid} (h : ofSuffix? cs = some id) :
    cs = suffix id := by
  rw [ofSuffix?_eq] at h
  split at h
  · rename_i hlen
    obtain ⟨ds, hds, h⟩ := Option.bind_eq_some_iff.mp h
    have hcs : cs = ds.map digitChar :=
      Traversal.eq_map_of_mapM_eq_some (fun c d hc => (eq_digitChar_of_digitValue? hc).2) hds
    have hlt : ∀ d ∈ ds, d < 36 := fun d hd =>
      have ⟨c, _, hc⟩ := Traversal.exists_of_mem_mapM_eq_some hds d hd
      (eq_digitChar_of_digitValue? hc).1
    have hlength : ds.length = suffixLength := by
      rw [← hlen, hcs, List.length_map]
    unfold Uuid.ofNat? at h
    split at h
    · obtain rfl := Option.some.inj h
      rw [suffix, hcs, ← hlength, Positional.digits_ofDigits hlt]
    · cases h
  · cases h

theorem ofSuffix?_eq_some_iff {cs : List Char} {id : Uuid} :
    ofSuffix? cs = some id ↔ cs = suffix id :=
  ⟨eq_suffix_of_ofSuffix?, fun h => h ▸ ofSuffix?_suffix id⟩

@[simp] theorem toList_format (f : IdFormat) (id : Uuid) :
    (f.format id).toList = f.label.toList ++ '_' :: suffix id := by
  simp [format]

/-- A text is read under a label exactly if it is the external form of the identifier. -/
theorem parse_eq_ok_iff {f : IdFormat} {s : String} {id : Uuid} :
    f.parse s = .ok id ↔ s = f.format id := by
  have hform : s = f.format id ↔ s.toList = (f.label.toList ++ ['_']) ++ suffix id := by
    rw [← String.toList_inj, toList_format, List.append_assoc, List.singleton_append]
  rw [hform]
  unfold parse
  constructor
  · intro h
    split at h
    · rename_i id' hread
      obtain ⟨rest, hrest, hid⟩ := Option.bind_eq_some_iff.mp hread
      rw [Traversal.isPrefixOf?_eq_some_iff.mp hrest, ofSuffix?_eq_some_iff.mp hid, Except.ok.inj h]
    · cases h
  · intro h
    rw [Traversal.isPrefixOf?_eq_some_iff.mpr h, Option.bind_some, ofSuffix?_suffix]

@[simp] theorem parse_format (f : IdFormat) (id : Uuid) : f.parse (f.format id) = .ok id :=
  parse_eq_ok_iff.mpr rfl

/-- What is not read is refused with the label that was expected. -/
theorem parse_eq_error_iff {f : IdFormat} {s : String} {e : InvalidId} :
    f.parse s = .error e ↔ e = ⟨f.label⟩ ∧ ∀ id, s ≠ f.format id := by
  constructor
  · intro h
    refine ⟨?_, fun id hs => ?_⟩
    · unfold parse at h
      split at h
      · cases h
      · exact (Except.error.inj h).symm
    · rw [parse_eq_ok_iff.mpr hs] at h
      cases h
  · rintro ⟨rfl, h⟩
    cases hs : f.parse s with
    | ok id => exact absurd (parse_eq_ok_iff.mp hs) (h id)
    | error e =>
      unfold parse at hs
      split at hs
      · cases hs
      · rw [← Except.error.inj hs]

theorem format_injective (f : IdFormat) {a b : Uuid} (h : f.format a = f.format b) : a = b := by
  have hread := f.parse_format a
  rw [h, parse_format] at hread
  exact (Except.ok.inj hread).symm

end IdFormat
end Gatehouse
