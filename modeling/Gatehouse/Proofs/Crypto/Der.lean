import Gatehouse.Crypto.Der
import Gatehouse.Proofs.Octets

/-!
# Written elements are read back

A length is written in its shortest form and read back in front of anything. So are elements, and
elements one after the other, as long as their contents are shorter than `2 ^ 32` bytes.
-/

namespace Gatehouse.Der

/-! ## Lengths -/

/-- A length behind its first byte, in a given number of bytes. -/
theorem readLength?_long (size : Nat) (first : UInt8) {n : Nat} (hfirst : first.toNat = 0x80 + size)
    (hsize : 1 ≤ size ∧ size ≤ 4) (hn : n < 256 ^ size)
    (hlength : lengthBytes n = first :: Bytes.ofNat size n) (rest : Bytes) :
    readLength? (lengthBytes n ++ rest) = some (n, rest) := by
  have hlong : ¬first < 0x80 := by
    rw [UInt8.lt_iff_toNat_lt, hfirst]
    show ¬0x80 + size < 0x80
    omega
  have htake : (Bytes.ofNat size n ++ rest).take size = Bytes.ofNat size n := by
    rw [List.take_append_of_le_length (by simp), List.take_of_length_le (by simp)]
  have hdrop : (Bytes.ofNat size n ++ rest).drop size = rest := by
    rw [List.drop_append_of_le_length (by simp), List.drop_of_length_le (by simp), List.nil_append]
  have hcount : first.toNat - 0x80 = size := by omega
  have hfits : size ≤ (Bytes.ofNat size n ++ rest).length := by simp
  rw [hlength, List.cons_append, readLength?, if_neg hlong]
  simp only [hcount, htake, hdrop, Bytes.toNat_ofNat hn]
  rw [if_pos ⟨hsize.1, hsize.2, hfits, hlength⟩]

theorem readLength?_lengthBytes {n : Nat} (h : n < 2 ^ 32) (rest : Bytes) :
    readLength? (lengthBytes n ++ rest) = some (n, rest) := by
  -- One byte, or a byte that says how many follow, which are as few as possible.
  by_cases h₀ : n < 0x80
  · have htoNat : (UInt8.ofNat n).toNat = n := Bytes.toNat_uint8_ofNat (by omega)
    have hshort : UInt8.ofNat n < 0x80 := by
      rw [UInt8.lt_iff_toNat_lt, htoNat]
      exact h₀
    rw [lengthBytes, if_pos h₀, List.singleton_append, readLength?, if_pos hshort, htoNat]
  by_cases h₁ : n < 0x100
  · exact readLength?_long 1 0x81 rfl (by decide) (by omega)
      (by rw [lengthBytes, if_neg h₀, if_pos h₁]) rest
  by_cases h₂ : n < 0x10000
  · exact readLength?_long 2 0x82 rfl (by decide) (by omega)
      (by rw [lengthBytes, if_neg h₀, if_neg h₁, if_pos h₂]) rest
  by_cases h₃ : n < 0x1000000
  · exact readLength?_long 3 0x83 rfl (by decide) (by omega)
      (by rw [lengthBytes, if_neg h₀, if_neg h₁, if_neg h₂, if_pos h₃]) rest
  · exact readLength?_long 4 0x84 rfl (by decide) (by omega)
      (by rw [lengthBytes, if_neg h₀, if_neg h₁, if_neg h₂, if_neg h₃]) rest

/-! ## Elements -/

/-- An element that can be read: its tag is known and its length fits. -/
structure Element.Readable (e : Element) : Prop where
  known : isKnownTag e.tag = true
  length : e.content.length < 2 ^ 32

theorem read?_bytes {e : Element} (h : e.Readable) (rest : Bytes) :
    read? (e.bytes ++ rest) = some (e, rest) := by
  rw [Element.bytes, List.cons_append, List.append_assoc, read?, if_pos h.known,
    readLength?_lengthBytes h.length]
  dsimp only
  rw [if_pos (by simp), List.take_left, List.drop_left]

theorem single?_bytes {e : Element} (h : e.Readable) : single? e.bytes = some e := by
  have hread := read?_bytes h []
  rw [List.append_nil] at hread
  rw [single?, hread]

theorem length_bytes_pos (e : Element) : 1 ≤ e.bytes.length := by
  simp [Element.bytes]

/-- A short length takes one byte, behind the tag. -/
theorem length_bytes_of_length_eq {e : Element} {n : Nat} (h : e.content.length = n)
    (hn : n < 0x80) : e.bytes.length = n + 2 := by
  rw [Element.bytes, h, lengthBytes, if_pos hn, List.length_cons, List.length_append, h,
    List.length_singleton]
  omega

/-- Elements one after the other are read back; each takes at least one byte. -/
theorem readAll?_flatMap {es : List Element} (h : ∀ e ∈ es, e.Readable) {fuel : Nat}
    (hfuel : es.length ≤ fuel) : readAll? fuel (es.flatMap Element.bytes) = some es := by
  induction es generalizing fuel with
  | nil => rw [List.flatMap_nil, readAll?]
  | cons e es ih =>
    rw [List.forall_mem_cons] at h
    obtain ⟨fuel, rfl⟩ : ∃ n, fuel = n + 1 := by
      rw [List.length_cons] at hfuel
      exact ⟨fuel - 1, by omega⟩
    rw [List.length_cons] at hfuel
    obtain ⟨b, bs, hbs⟩ : ∃ b bs, e.bytes ++ es.flatMap Element.bytes = b :: bs := ⟨_, _, rfl⟩
    have hread := read?_bytes h.1 (es.flatMap Element.bytes)
    rw [List.flatMap_cons]
    rw [hbs] at hread ⊢
    rw [readAll?, hread, Option.bind_eq_bind, Option.bind_some]
    · simp only [ih h.2 (by omega : es.length ≤ fuel), Option.bind_eq_bind, Option.bind_some]
      rfl
    · exact List.cons_ne_nil b bs

theorem length_le_length_flatMap (es : List Element) :
    es.length ≤ (es.flatMap Element.bytes).length := by
  induction es with
  | nil => exact Nat.le_refl 0
  | cons e es ih =>
    rw [List.length_cons, List.flatMap_cons, List.length_append]
    have hpos := length_bytes_pos e
    omega

/-- A sequence of elements is read back. -/
theorem sequence?_write {es : List Element} (h : ∀ e ∈ es, e.Readable)
    (hlength : (es.flatMap Element.bytes).length < 2 ^ 32) :
    sequence? (write sequence (es.flatMap Element.bytes)) = some es := by
  have hknown : isKnownTag sequence = true := by decide
  have hsingle := single?_bytes (e := ⟨sequence, es.flatMap Element.bytes⟩) ⟨hknown, hlength⟩
  rw [sequence?, write, hsingle, Option.bind_eq_bind, Option.bind_some, if_pos rfl]
  exact readAll?_flatMap h (length_le_length_flatMap es)

/-! ## What is read was written -/

/-- A length is read from nothing but its shortest form. -/
theorem eq_of_readLength? {bs rest : Bytes} {n : Nat} (h : readLength? bs = some (n, rest)) :
    bs = lengthBytes n ++ rest ∧ n < 2 ^ 32 := by
  cases bs with
  | nil => cases h
  | cons first tail =>
    rw [readLength?] at h
    split at h
    · rename_i hshort
      obtain ⟨rfl, rfl⟩ := Prod.mk.inj (Option.some.inj h)
      have hlt : first.toNat < 0x80 := UInt8.lt_iff_toNat_lt.1 hshort
      refine ⟨?_, by omega⟩
      rw [lengthBytes, if_pos hlt, UInt8.ofNat_toNat]
      rfl
    · dsimp only at h
      split at h
      · rename_i hlong
        obtain ⟨-, hsize, hfits, hlength⟩ := hlong
        obtain ⟨rfl, rfl⟩ := Prod.mk.inj (Option.some.inj h)
        refine ⟨?_, ?_⟩
        · rw [hlength, List.cons_append, List.take_append_drop]
        · -- At most four bytes write the length.
          have htake : (tail.take (first.toNat - 0x80)).length ≤ 4 :=
            Nat.le_trans (List.length_take_le _ _) hsize
          calc Bytes.toNat (tail.take (first.toNat - 0x80))
              < 256 ^ (tail.take (first.toNat - 0x80)).length := Bytes.toNat_lt _
            _ ≤ 256 ^ 4 := Nat.pow_le_pow_right (by decide) htake
            _ = 2 ^ 32 := by decide
      · cases h

theorem eq_of_read? {bs rest : Bytes} {e : Element} (h : read? bs = some (e, rest)) :
    bs = e.bytes ++ rest ∧ e.Readable := by
  cases bs with
  | nil => cases h
  | cons tag tail =>
    rw [read?] at h
    split at h
    · rename_i hknown
      split at h
      · rename_i n body hlength
        split at h
        · rename_i hfits
          obtain ⟨rfl, rfl⟩ := Prod.mk.inj (Option.some.inj h)
          obtain ⟨rfl, hn⟩ := eq_of_readLength? hlength
          have hcontent : (body.take n).length = n := List.length_take_of_le hfits
          refine ⟨?_, hknown, hcontent.symm ▸ hn⟩
          rw [Element.bytes, hcontent, List.cons_append, List.append_assoc,
            List.take_append_drop]
        · cases h
      · cases h
    · cases h

/-- One element fills exactly the bytes that it is written as. -/
theorem single?_eq_some_iff {bs : Bytes} {e : Element} :
    single? bs = some e ↔ bs = e.bytes ∧ e.Readable := by
  constructor
  · intro h
    rw [single?] at h
    split at h
    · rename_i hread
      obtain rfl := Option.some.inj h
      have hbytes := eq_of_read? hread
      rwa [List.append_nil] at hbytes
    · cases h
  · rintro ⟨rfl, he⟩
    exact single?_bytes he

theorem eq_of_readAll? {fuel : Nat} {bs : Bytes} {es : List Element}
    (h : readAll? fuel bs = some es) :
    bs = es.flatMap Element.bytes ∧ ∀ e ∈ es, e.Readable := by
  induction fuel generalizing bs es with
  | zero =>
    cases bs with
    | nil =>
      rw [readAll?] at h
      obtain rfl := Option.some.inj h
      exact ⟨rfl, nofun⟩
    | cons b bs => cases h
  | succ fuel ih =>
    cases bs with
    | nil =>
      rw [readAll?] at h
      obtain rfl := Option.some.inj h
      exact ⟨rfl, nofun⟩
    | cons b bs =>
      obtain ⟨⟨e, rest⟩, hread, h⟩ := Option.bind_eq_some_iff.1 h
      obtain ⟨es, hrest, h⟩ := Option.bind_eq_some_iff.1 h
      obtain rfl := Option.some.inj h
      obtain ⟨hbytes, he⟩ := eq_of_read? hread
      obtain ⟨rfl, hes⟩ := ih hrest
      exact ⟨hbytes, List.forall_mem_cons.2 ⟨he, hes⟩⟩

/-- Elements are read from nothing but the sequence that they are written as. -/
theorem eq_of_sequence? {bs : Bytes} {es : List Element} (h : sequence? bs = some es) :
    bs = write sequence (es.flatMap Element.bytes) ∧ ∀ e ∈ es, e.Readable := by
  obtain ⟨⟨tag, content⟩, hsingle, h⟩ := Option.bind_eq_some_iff.1 h
  split at h
  · rename_i htag
    obtain ⟨rfl, hes⟩ := eq_of_readAll? h
    obtain rfl : tag = sequence := htag
    exact ⟨(single?_eq_some_iff.1 hsingle).1, hes⟩
  · cases h

theorem wholeBits?_eq_some_iff {bs octets : Bytes} :
    wholeBits? bs = some octets ↔ bs = 0 :: octets := by
  constructor
  · intro h
    unfold wholeBits? at h
    split at h
    · rw [Option.some.inj h]
    · cases h
  · rintro rfl
    rfl

/-- No element begins with another one. -/
theorem eq_of_begins {e e' : Element} (he : e.Readable) (he' : e'.Readable)
    (h : e.bytes <+: e'.bytes) : e = e' := by
  obtain ⟨rest, hrest⟩ := h
  have hfirst := read?_bytes he rest
  have hwhole := read?_bytes he' []
  rw [List.append_nil, ← hrest, hfirst] at hwhole
  exact (Prod.mk.inj (Option.some.inj hwhole)).1

/-- What is longer than a sequence that begins it, or shorter than one that it begins, is none. -/
theorem eq_of_sequence?_begins {bs bs' : Bytes} (h : (sequence? bs).isSome)
    (h' : (sequence? bs').isSome) (hp : bs <+: bs') : bs = bs' := by
  obtain ⟨_, hes⟩ := Option.isSome_iff_exists.1 h
  obtain ⟨_, hes'⟩ := Option.isSome_iff_exists.1 h'
  obtain ⟨e, hsingle, -⟩ := Option.bind_eq_some_iff.1 hes
  obtain ⟨e', hsingle', -⟩ := Option.bind_eq_some_iff.1 hes'
  obtain ⟨rfl, he⟩ := single?_eq_some_iff.1 hsingle
  obtain ⟨rfl, he'⟩ := single?_eq_some_iff.1 hsingle'
  rw [eq_of_begins he he' hp]

end Gatehouse.Der
