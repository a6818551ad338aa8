import Gatehouse.Proofs.Crypto.Curve
import Gatehouse.Proofs.Octets

/-!
# Compressed points

A point is known by its first coordinate and the parity of the second one. The second coordinate is
a square root in the field, and a power gives one, since the order of the field is three modulo
four; the other one has the other parity.
-/

namespace Gatehouse.P256

theorem fieldOrder_odd : fieldOrder % 2 = 1 := by decide

theorem fieldOrder_le : fieldOrder ≤ 256 ^ coordinateSize := by decide

/-! ## Square roots -/

/-- A power of a square is a root of it. -/
theorem pow_mul_self_of_square {a y : Field} (h : y * y = a) :
    a ^ ((fieldOrder + 1) / 4) * a ^ ((fieldOrder + 1) / 4) = a := by
  have hexponent : 4 * ((fieldOrder + 1) / 4) = fieldOrder + 1 := by decide
  obtain ⟨k, hk⟩ : ∃ k, k = (fieldOrder + 1) / 4 := ⟨_, rfl⟩
  rw [← hk] at hexponent ⊢
  subst h
  calc (y * y) ^ k * (y * y) ^ k = y ^ (4 * k) := by ring
    _ = y ^ fieldOrder * y := by rw [hexponent, pow_succ]
    _ = y * y := by rw [ZMod.pow_card]

/-- Two roots of a square are equal or opposite. -/
theorem eq_or_eq_neg_of_mul_self {a b : Field} (h : a * a = b * b) : a = b ∨ a = -b :=
  mul_self_eq_mul_self_iff.1 h

/-- The opposite of a reduced number. -/
theorem sub_zero_left {y : Nat} (h : y < fieldOrder) :
    sub 0 y = if y = 0 then 0 else fieldOrder - y := by
  rw [sub, Nat.zero_add]
  split
  · rename_i hzero
    rw [hzero, Nat.sub_zero, Nat.mod_self]
  · exact Nat.mod_eq_of_lt (by omega)

namespace Point

/-! ## Opposite points -/

/-- A point of the curve has reduced coordinates that satisfy its equation. -/
theorem isValid_iff {q : Point} : q.isValid = true ↔
    q.x < fieldOrder ∧ q.y < fieldOrder ∧ (q.y : Field) * q.y = (rightSide q.x : Nat) := by
  have hequation : q.y * q.y % fieldOrder = rightSide q.x ↔
      (q.y : Field) * q.y = (rightSide q.x : Nat) := by
    constructor
    · intro h
      rw [← h, ZMod.natCast_mod, Nat.cast_mul]
    · intro h
      refine eq_of_cast_eq (mod_lt _) (sub_lt _ _) ?_
      rw [ZMod.natCast_mod, Nat.cast_mul, h]
  rw [isValid, Bool.and_eq_true, Bool.and_eq_true, decide_eq_true_eq, decide_eq_true_eq,
    beq_iff_eq, hequation, and_assoc]

theorem isValid_neg {q : Point} (h : q.isValid = true) : q.neg.isValid = true := by
  obtain ⟨hx, hy, hequation⟩ := isValid_iff.1 h
  refine isValid_iff.2 ⟨hx, sub_lt _ _, ?_⟩
  show ((sub 0 q.y : Nat) : Field) * (sub 0 q.y : Nat) = (rightSide q.x : Nat)
  rw [cast_sub 0 hy, Nat.cast_zero, zero_sub, neg_mul_neg, hequation]

theorem neg_neg {q : Point} (h : q.y < fieldOrder) : q.neg.neg = q := by
  have hy : sub 0 (sub 0 q.y) = q.y := by
    rw [sub_zero_left (sub_lt _ _), sub_zero_left h]
    split <;> split at * <;> omega
  rw [neg, neg, hy]

/-! ## The point with a first coordinate -/

/-- From the first coordinate of a point the point is found whose second coordinate is even: the
point itself or the opposite one. -/
theorem ofX?_eq {q : Point} (h : q.isValid = true) :
    ofX? q.x = some (if q.y % 2 = 0 then q else q.neg) := by
  obtain ⟨hx, hy, hequation⟩ := isValid_iff.1 h
  have hbound : (fieldOrder + 1) / 4 < 2 ^ 256 := by decide
  obtain ⟨root, hroot⟩ : ∃ r, r = pow fieldOrder (rightSide q.x) ((fieldOrder + 1) / 4) :=
    ⟨_, rfl⟩
  have hpow : root = rightSide q.x ^ ((fieldOrder + 1) / 4) % fieldOrder := by
    rw [hroot, pow_eq _ prime_fieldOrder.one_lt hbound]
  have hlt : root < fieldOrder := hpow ▸ mod_lt _
  have hsquare : (root : Field) * root = (q.y : Field) * q.y := by
    rw [hpow, ZMod.natCast_mod, Nat.cast_pow, pow_mul_self_of_square hequation, hequation]
  -- The root is the second coordinate or the opposite one.
  have hchoice : (if root % 2 = 0 then root else sub 0 root) =
      if q.y % 2 = 0 then q.y else sub 0 q.y := by
    have hodd := fieldOrder_odd
    rcases eq_or_eq_neg_of_mul_self hsquare with heq | heq
    · rw [eq_of_cast_eq hlt hy heq]
    · have hneg : root = sub 0 q.y := by
        refine eq_of_cast_eq hlt (sub_lt _ _) ?_
        rw [heq, cast_sub 0 hy, Nat.cast_zero, zero_sub]
      rw [sub_zero_left hlt, sub_zero_left hy]
      rw [sub_zero_left hy] at hneg
      split at hneg <;> split <;> split <;> try split
      all_goals omega
  have hpoint : (⟨q.x, if root % 2 = 0 then root else sub 0 root⟩ : Point) =
      if q.y % 2 = 0 then q else q.neg := by
    rw [hchoice]
    split <;> rfl
  have hvalid : (if q.y % 2 = 0 then q else q.neg).isValid = true := by
    split
    · exact h
    · exact isValid_neg h
  rw [ofX?, ← hroot]
  show (if Point.isValid _ = true then some _ else none) = _
  rw [hpoint, if_pos hvalid]

theorem isValid_of_ofX? {x : Nat} {q : Point} (h : ofX? x = some q) :
    q.isValid = true ∧ q.x = x := by
  rw [ofX?, Option.ite_none_right_eq_some] at h
  obtain ⟨hvalid, heq⟩ := h
  obtain rfl := Option.some.inj heq
  exact ⟨hvalid, rfl⟩

/-! ## Octet strings -/

theorem length_xBytes (q : Point) : q.xBytes.length = 32 := Bytes.length_ofNat _ _

theorem length_yBytes (q : Point) : q.yBytes.length = 32 := Bytes.length_ofNat _ _

/-- The coordinates of a point of the curve are what their bytes write. -/
theorem toNat_coordinates {q : Point} (h : q.isValid = true) :
    Bytes.toNat q.xBytes = q.x ∧ Bytes.toNat q.yBytes = q.y := by
  obtain ⟨hx, hy, -⟩ := isValid_iff.1 h
  exact ⟨Bytes.toNat_ofNat (Nat.lt_of_lt_of_le hx fieldOrder_le),
    Bytes.toNat_ofNat (Nat.lt_of_lt_of_le hy fieldOrder_le)⟩

/-- A point of the curve is read back from its compressed form. -/
theorem ofOctets?_compressed {q : Point} (h : q.isValid = true) :
    ofOctets? q.compressed = some q := by
  have hlength : q.xBytes.length = coordinateSize := length_xBytes q
  have hx := (toNat_coordinates h).1
  have hread := ofX?_eq h
  rw [compressed]
  by_cases heven : q.y % 2 = 0
  · rw [if_pos heven, ofOctets?, if_neg (by decide), if_pos hlength, if_pos rfl, hx, hread,
      if_pos heven]
  · rw [if_neg heven, ofOctets?, if_neg (by decide), if_pos hlength, if_neg (by decide), if_pos rfl,
      hx, hread, if_neg heven, Option.map_some, neg_neg (isValid_iff.1 h).2.1]

/-- Bytes that give both points with a first coordinate are those of the coordinate. -/
theorem eq_xBytes_of_ofX? {body : Bytes} (hlength : body.length = coordinateSize) {p q : Point}
    (hp : ofX? (Bytes.toNat body) = some p) (hq : q = p ∨ q = p.neg) :
    q.isValid = true ∧ body = q.xBytes := by
  obtain ⟨hvalid, hx⟩ := isValid_of_ofX? hp
  have hbody := Bytes.ofNat_toNat body
  rw [hlength, ← hx] at hbody
  rcases hq with rfl | rfl
  · exact ⟨hvalid, hbody.symm⟩
  · exact ⟨isValid_neg hvalid, hbody.symm⟩

theorem eq_uncompressed_of_length {body : Bytes} (hlength : body.length = 2 * coordinateSize) :
    (0x04 :: body : Bytes) = uncompressed
      ⟨Bytes.toNat (body.take coordinateSize), Bytes.toNat (body.drop coordinateSize)⟩ := by
  have hfirst : (body.take coordinateSize).length = coordinateSize := by
    rw [List.length_take, hlength]
    rfl
  have hsecond : (body.drop coordinateSize).length = coordinateSize := by
    rw [List.length_drop, hlength]
    rfl
  have hx := Bytes.ofNat_toNat (body.take coordinateSize)
  have hy := Bytes.ofNat_toNat (body.drop coordinateSize)
  rw [hfirst] at hx
  rw [hsecond] at hy
  rw [uncompressed, xBytes, yBytes, hx, hy, List.take_append_drop]

/-- What writes a point is its uncompressed form, or a tag and its first coordinate. -/
theorem eq_of_ofOctets? {bs : Bytes} {q : Point} (h : ofOctets? bs = some q) :
    q.isValid = true ∧
      (bs = q.uncompressed ∨ ∃ tag ∈ ([0x02, 0x03, 0x05] : Bytes), bs = tag :: q.xBytes) := by
  cases bs with
  | nil => cases h
  | cons tag body =>
    rw [ofOctets?] at h
    split at h
    · rename_i htag
      rw [Option.ite_none_right_eq_some, Option.ite_none_right_eq_some] at h
      obtain ⟨hlength, hvalid, heq⟩ := h
      obtain rfl := Option.some.inj heq
      rw [htag]
      exact ⟨hvalid, .inl (eq_uncompressed_of_length hlength)⟩
    · rw [Option.ite_none_right_eq_some] at h
      obtain ⟨hlength, h⟩ := h
      -- Whatever the tag says of the second coordinate, the first one is written.
      have hshort : ∀ p, ofX? (Bytes.toNat body) = some p → q = p ∨ q = p.neg →
          tag ∈ ([0x02, 0x03, 0x05] : Bytes) → q.isValid = true ∧
            (tag :: body = q.uncompressed ∨
              ∃ tag' ∈ ([0x02, 0x03, 0x05] : Bytes), tag :: body = tag' :: q.xBytes) := by
        intro p hp hq htag
        obtain ⟨hvalid, hbody⟩ := eq_xBytes_of_ofX? hlength hp hq
        exact ⟨hvalid, .inr ⟨tag, htag, hbody ▸ rfl⟩⟩
      generalize ofX? (Bytes.toNat body) = even? at h hshort
      split at h
      · rename_i htag
        exact hshort q h (.inl rfl) (by simp [htag])
      · split at h
        · rename_i htag
          obtain ⟨p, hp, rfl⟩ := Option.map_eq_some_iff.1 h
          exact hshort p hp (.inr rfl) (by simp [htag])
        · rw [Option.ite_none_right_eq_some] at h
          obtain ⟨htag, h⟩ := h
          obtain ⟨p, hp, hq⟩ := Option.map_eq_some_iff.1 h
          refine hshort p hp ?_ (by simp [htag])
          rw [← hq]
          split
          · exact .inl rfl
          · exact .inr rfl

end Point
end Gatehouse.P256
