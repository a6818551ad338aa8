import Gatehouse.Bytes.Base64
import Gatehouse.Proofs.Octets

/-!
# Base64 texts

In both dialects a byte string has exactly one text: what is written is read back, and what is read
is the text that is written for its bytes. No text holds a dot, nor, without padding, any character
outside the alphabet.
-/

namespace Gatehouse.Base64

namespace Dialect

/-- What makes a dialect readable: each value below 64 has a character of its own, and the fill
character is none of them. -/
structure Lawful (d : Dialect) : Prop where
  value?_char : ∀ n < 64, d.value? (d.char n) = some n
  value?_fill : d.value? '=' = none

variable {d : Dialect}

theorem eq_char_of_value? {c : Char} {n : Nat} (h : d.value? c = some n) :
    n < 64 ∧ c = d.char n := by
  unfold value? at h
  -- Capitals, small letters, digits, and the two characters that the dialects differ in.
  split at h
  · rename_i hc
    have hlow : 65 ≤ c.toNat := hc.1
    have hhigh : c.toNat ≤ 90 := hc.2
    obtain rfl := Option.some.inj h
    have hback : 65 + (c.toNat - 65) = c.toNat := by omega
    refine ⟨by omega, ?_⟩
    rw [char, if_pos (by omega), hback, Char.ofNat_toNat]
  split at h
  · rename_i hc
    have hlow : 97 ≤ c.toNat := hc.1
    have hhigh : c.toNat ≤ 122 := hc.2
    obtain rfl := Option.some.inj h
    have hback : 71 + (c.toNat - 71) = c.toNat := by omega
    refine ⟨by omega, ?_⟩
    rw [char, if_neg (by omega), if_pos (by omega), hback, Char.ofNat_toNat]
  split at h
  · rename_i hc
    have hlow : 48 ≤ c.toNat := hc.1
    have hhigh : c.toNat ≤ 57 := hc.2
    obtain rfl := Option.some.inj h
    have hback : c.toNat + 4 - 4 = c.toNat := by omega
    refine ⟨by omega, ?_⟩
    rw [char, if_neg (by omega), if_neg (by omega), if_pos (by omega), hback, Char.ofNat_toNat]
  split at h
  · rename_i hc
    obtain rfl := Option.some.inj h
    exact ⟨by omega, hc⟩
  split at h
  · rename_i hc
    obtain rfl := Option.some.inj h
    exact ⟨by omega, hc⟩
  · cases h

/-! ## Single groups -/

theorem lastTwo?_eq_some_iff (hd : d.Lawful) {a b : Char} {bs : Bytes} :
    d.lastTwo? a b = some bs ↔
      ∃ x : UInt8, bs = [x] ∧ a = d.char (x.toNat / 4) ∧ b = d.char (x.toNat % 4 * 16) := by
  constructor
  · intro h
    simp only [lastTwo?, Option.bind_eq_bind, Option.bind_eq_some_iff] at h
    obtain ⟨m, hm, n, hn, h⟩ := h
    obtain ⟨hm64, rfl⟩ := eq_char_of_value? hm
    obtain ⟨hn64, rfl⟩ := eq_char_of_value? hn
    -- The lower four bits of the second value have to be zero.
    split at h
    · rename_i hrest
      have hx : (UInt8.ofNat (m * 4 + n / 16)).toNat = m * 4 + n / 16 :=
        Bytes.toNat_uint8_ofNat (by omega)
      refine ⟨_, (Option.some.inj h).symm, ?_, ?_⟩
      · rw [hx]
        congr 1
        omega
      · rw [hx]
        congr 1
        omega
    · cases h
  · rintro ⟨x, rfl, rfl, rfl⟩
    have hx := x.toNat_lt
    rw [lastTwo?, hd.value?_char _ (by omega), hd.value?_char _ (by omega)]
    have hrest : x.toNat % 4 * 16 % 16 = 0 := by omega
    have hback : x.toNat / 4 * 4 + x.toNat % 4 * 16 / 16 = x.toNat := by omega
    simp only [Option.bind_eq_bind, Option.bind_some, hrest, hback, if_true, UInt8.ofNat_toNat]

theorem lastThree?_eq_some_iff (hd : d.Lawful) {a b c : Char} {bs : Bytes} :
    d.lastThree? a b c = some bs ↔
      ∃ x y : UInt8, bs = [x, y] ∧ a = d.char ((x.toNat * 256 + y.toNat) / 1024) ∧
        b = d.char ((x.toNat * 256 + y.toNat) / 16 % 64) ∧
        c = d.char ((x.toNat * 256 + y.toNat) % 16 * 4) := by
  constructor
  · intro h
    simp only [lastThree?, Option.bind_eq_bind, Option.bind_eq_some_iff] at h
    obtain ⟨l, hl, m, hm, n, hn, h⟩ := h
    obtain ⟨hl64, rfl⟩ := eq_char_of_value? hl
    obtain ⟨hm64, rfl⟩ := eq_char_of_value? hm
    obtain ⟨hn64, rfl⟩ := eq_char_of_value? hn
    -- The lower two bits of the third value have to be zero.
    split at h
    · rename_i hrest
      have hx : (UInt8.ofNat (((l * 64 + m) * 16 + n / 4) / 256)).toNat =
          ((l * 64 + m) * 16 + n / 4) / 256 := Bytes.toNat_uint8_ofNat (by omega)
      have hy : (UInt8.ofNat (((l * 64 + m) * 16 + n / 4) % 256)).toNat =
          ((l * 64 + m) * 16 + n / 4) % 256 := Bytes.toNat_uint8_ofNat (by omega)
      refine ⟨_, _, (Option.some.inj h).symm, ?_, ?_, ?_⟩
      · rw [hx, hy]
        congr 1
        omega
      · rw [hx, hy]
        congr 1
        omega
      · rw [hx, hy]
        congr 1
        omega
    · cases h
  · rintro ⟨x, y, rfl, rfl, rfl, rfl⟩
    have hx := x.toNat_lt
    have hy := y.toNat_lt
    rw [lastThree?, hd.value?_char _ (by omega), hd.value?_char _ (by omega),
      hd.value?_char _ (by omega)]
    generalize hn : x.toNat * 256 + y.toNat = n
    have hrest : n % 16 * 4 % 4 = 0 := by omega
    have hback : (n / 1024 * 64 + n / 16 % 64) * 16 + n % 16 * 4 / 4 = n := by omega
    have hhigh : n / 256 = x.toNat := by omega
    have hlow : n % 256 = y.toNat := by omega
    simp only [Option.bind_eq_bind, Option.bind_some, hrest, hback, hhigh, hlow, if_true,
      UInt8.ofNat_toNat]

theorem whole?_eq_some_iff (hd : d.Lawful) {a b c e : Char} {bs : Bytes} :
    d.whole? a b c e = some bs ↔
      ∃ x y z : UInt8, bs = [x, y, z] ∧
        a = d.char (((x.toNat * 256 + y.toNat) * 256 + z.toNat) / 262144) ∧
        b = d.char (((x.toNat * 256 + y.toNat) * 256 + z.toNat) / 4096 % 64) ∧
        c = d.char (((x.toNat * 256 + y.toNat) * 256 + z.toNat) / 64 % 64) ∧
        e = d.char (((x.toNat * 256 + y.toNat) * 256 + z.toNat) % 64) := by
  constructor
  · intro h
    simp only [whole?, Option.bind_eq_bind, Option.bind_eq_some_iff] at h
    obtain ⟨l, hl, m, hm, n, hn, o, ho, h⟩ := h
    obtain ⟨hl64, rfl⟩ := eq_char_of_value? hl
    obtain ⟨hm64, rfl⟩ := eq_char_of_value? hm
    obtain ⟨hn64, rfl⟩ := eq_char_of_value? hn
    obtain ⟨ho64, rfl⟩ := eq_char_of_value? ho
    have hk : ((l * 64 + m) * 64 + n) * 64 + o < 16777216 := by omega
    generalize hw : ((l * 64 + m) * 64 + n) * 64 + o = k at h hk
    have hx : (UInt8.ofNat (k / 65536)).toNat = k / 65536 :=
      Bytes.toNat_uint8_ofNat (by omega)
    have hy : (UInt8.ofNat (k / 256 % 256)).toNat = k / 256 % 256 :=
      Bytes.toNat_uint8_ofNat (by omega)
    have hz : (UInt8.ofNat (k % 256)).toNat = k % 256 := Bytes.toNat_uint8_ofNat (by omega)
    have hback : (k / 65536 * 256 + k / 256 % 256) * 256 + k % 256 = k := by omega
    refine ⟨_, _, _, (Option.some.inj h).symm, ?_, ?_, ?_, ?_⟩ <;> rw [hx, hy, hz, hback] <;>
      congr 1 <;> omega
  · rintro ⟨x, y, z, rfl, rfl, rfl, rfl, rfl⟩
    have hx := x.toNat_lt
    have hy := y.toNat_lt
    have hz := z.toNat_lt
    generalize hn : (x.toNat * 256 + y.toNat) * 256 + z.toNat = n
    have hback : ((n / 262144 * 64 + n / 4096 % 64) * 64 + n / 64 % 64) * 64 + n % 64 = n := by
      omega
    have hfirst : n / 65536 = x.toNat := by omega
    have hsecond : n / 256 % 256 = y.toNat := by omega
    have hthird : n % 256 = z.toNat := by omega
    rw [whole?, hd.value?_char _ (by omega), hd.value?_char _ (by omega),
      hd.value?_char _ (by omega), hd.value?_char _ (by omega)]
    simp only [Option.bind_eq_bind, Option.bind_some, hback, hfirst, hsecond, hthird,
      UInt8.ofNat_toNat]

/-! ## Whole texts -/

theorem char_ne_fill (hd : d.Lawful) {n : Nat} (h : n < 64) : d.char n ≠ '=' := by
  intro hfill
  have hread := hd.value?_char n h
  rw [hfill, hd.value?_fill] at hread
  cases hread

theorem encodeChars_ne_nil (b : UInt8) (bs : Bytes) : d.encodeChars (b :: bs) ≠ [] := by
  intro h
  match bs with
  | [] => cases h
  | [_] => cases h
  | _ :: _ :: _ => cases h

theorem decodeChars?_encodeChars (hd : d.Lawful) (bs : Bytes) :
    d.decodeChars? (d.encodeChars bs) = some bs := by
  fun_induction encodeChars d bs with
  | case1 => rfl
  | case2 a n =>
    have hread := (lastTwo?_eq_some_iff hd).mpr ⟨a, rfl, rfl, rfl⟩
    unfold padding
    split
    · rename_i hpad
      simpa [decodeChars?, hpad] using hread
    · rename_i hpad
      simpa [decodeChars?, hpad] using hread
  | case3 a b n =>
    have ha := a.toNat_lt
    have hb := b.toNat_lt
    have hfill : d.char (n % 16 * 4) ≠ '=' := char_ne_fill hd (by omega)
    have hread := (lastThree?_eq_some_iff hd).mpr ⟨a, b, rfl, rfl, rfl, rfl⟩
    unfold padding
    split
    · rename_i hpad
      simpa [decodeChars?, hpad, hfill] using hread
    · rename_i hpad
      simpa [decodeChars?, hpad] using hread
  | case4 a b c rest n ih =>
    have hfill : d.char (n % 64) ≠ '=' := char_ne_fill hd (Nat.mod_lt _ (by decide))
    have hread := (whole?_eq_some_iff hd).mpr ⟨a, b, c, rfl, rfl, rfl, rfl, rfl⟩
    -- Only the last group may be padded, so a group with more behind it is read as a whole one.
    cases rest with
    | nil => simpa [encodeChars, decodeChars?, hfill] using hread
    | cons r rest =>
      obtain ⟨x, xs, hxs⟩ := List.exists_cons_of_ne_nil (encodeChars_ne_nil (d := d) r rest)
      rw [hxs] at ih ⊢
      rw [decodeChars?, hread, ih]
      · rfl
      · intro h
        cases h

theorem eq_encodeChars_of_decodeChars? (hd : d.Lawful) {cs : List Char} {bs : Bytes}
    (h : d.decodeChars? cs = some bs) : cs = d.encodeChars bs := by
  fun_induction decodeChars? d cs generalizing bs with
  | case1 => rw [← Option.some.inj h, encodeChars]
  | case2 => cases h
  | case3 => cases h
  | case4 a b hpad =>
    obtain ⟨x, rfl, rfl, rfl⟩ := (lastTwo?_eq_some_iff hd).mp h
    simp [encodeChars, padding, hpad]
  | case5 => cases h
  | case6 a b c hpad =>
    obtain ⟨x, y, rfl, rfl, rfl, rfl⟩ := (lastThree?_eq_some_iff hd).mp h
    simp [encodeChars, padding, hpad]
  | case7 a b e hpad =>
    obtain ⟨x, rfl, rfl, rfl⟩ := (lastTwo?_eq_some_iff hd).mp h
    simp [encodeChars, padding, hpad]
  | case8 a b c e hpad hc =>
    obtain ⟨x, y, rfl, rfl, rfl, rfl⟩ := (lastThree?_eq_some_iff hd).mp h
    simp [encodeChars, padding, hpad]
  | case9 a b c e hpad =>
    obtain ⟨x, y, z, rfl, rfl, rfl, rfl, rfl⟩ := (whole?_eq_some_iff hd).mp h
    simp [encodeChars]
  | case10 a b c e rest hrest ih =>
    simp only [Option.bind_eq_bind, Option.bind_eq_some_iff] at h
    obtain ⟨bytes, hbytes, more, hmore, h⟩ := h
    obtain ⟨x, y, z, rfl, rfl, rfl, rfl, rfl⟩ := (whole?_eq_some_iff hd).mp hbytes
    rw [← Option.some.inj h, ih hmore]
    simp [encodeChars]

/-- A text is read as some bytes exactly if it is the text that is written for them. -/
theorem decode?_eq_some_iff (hd : d.Lawful) {s : String} {bs : Bytes} :
    d.decode? s = some bs ↔ s = d.encode bs := by
  rw [← String.toList_inj, encode, String.toList_ofList, decode?]
  exact ⟨eq_encodeChars_of_decodeChars? hd, fun h => h ▸ decodeChars?_encodeChars hd bs⟩

/-- A text consists of characters of the alphabet, and of fill characters if it is padded. -/
theorem mem_encodeChars {bs : Bytes} {c : Char} (h : c ∈ d.encodeChars bs) :
    (∃ n < 64, c = d.char n) ∨ (d.padded = true ∧ c = '=') := by
  have hfill : ∀ k, c ∈ d.padding k → d.padded = true ∧ c = '=' := by
    intro k hk
    unfold padding at hk
    split at hk
    · rename_i hpad
      exact ⟨hpad, List.eq_of_mem_replicate hk⟩
    · cases hk
  fun_induction encodeChars d bs with
  | case1 => cases h
  | case2 a n =>
    have ha := a.toNat_lt
    simp only [List.mem_cons] at h
    rcases h with rfl | rfl | h
    · exact .inl ⟨_, by omega, rfl⟩
    · exact .inl ⟨_, by omega, rfl⟩
    · exact .inr (hfill _ h)
  | case3 a b n =>
    have ha := a.toNat_lt
    have hb := b.toNat_lt
    simp only [List.mem_cons] at h
    rcases h with rfl | rfl | rfl | h
    · exact .inl ⟨_, by omega, rfl⟩
    · exact .inl ⟨_, by omega, rfl⟩
    · exact .inl ⟨_, by omega, rfl⟩
    · exact .inr (hfill _ h)
  | case4 a b e rest n ih =>
    have ha := a.toNat_lt
    have hb := b.toNat_lt
    have he := e.toNat_lt
    simp only [List.mem_cons] at h
    rcases h with rfl | rfl | rfl | rfl | h
    · exact .inl ⟨_, by omega, rfl⟩
    · exact .inl ⟨_, by omega, rfl⟩
    · exact .inl ⟨_, by omega, rfl⟩
    · exact .inl ⟨_, by omega, rfl⟩
    · exact ih h

end Dialect

/-! ## The two dialects -/

theorem standard_lawful : standard.Lawful where
  value?_char := by decide
  value?_fill := by decide

theorem urlSafe_lawful : urlSafe.Lawful where
  value?_char := by decide
  value?_fill := by decide

/-- Texts for URLs hold no dot. -/
theorem dot_not_mem_encode_urlSafe (bs : Bytes) : '.' ∉ (urlSafe.encode bs).toList := by
  intro h
  rw [Dialect.encode, String.toList_ofList] at h
  rcases Dialect.mem_encodeChars h with ⟨n, hn, hdot⟩ | ⟨hpad, -⟩
  · have hchar : ∀ n < 64, '.' ≠ urlSafe.char n := by decide
    exact hchar n hn hdot
  · cases hpad

end Gatehouse.Base64
