import Gatehouse.Crypto.Ecdsa
import Gatehouse.Proofs.Crypto.FieldOrder
import Mathlib.FieldTheory.Finite.Basic
import Mathlib.Tactic.LinearCombination

/-!
# Points stay on the curve

Doubling and addition in Jacobian coordinates lead from points of the curve to points of the curve,
so every multiple of the generator is one, and with it the public half of every key. The formulas
are identities of polynomials; that the denominators have inverses is where the field order has to
be prime.
-/

namespace Gatehouse.P256

instance : Fact fieldOrder.Prime := ⟨prime_fieldOrder⟩

/-- The field of the curve. -/
abbrev Field : Type := ZMod fieldOrder

/-! ## Arithmetic in the field -/

theorem cast_sub (a : Nat) {b : Nat} (hb : b < fieldOrder) :
    ((sub a b : Nat) : Field) = (a : Field) - b := by
  have hle : b ≤ a + fieldOrder := by omega
  rw [sub, ZMod.natCast_mod, Nat.cast_sub hle, Nat.cast_add, ZMod.natCast_self, add_zero]

theorem mod_lt (a : Nat) : a % fieldOrder < fieldOrder :=
  Nat.mod_lt _ prime_fieldOrder.pos

theorem sub_lt (a b : Nat) : sub a b < fieldOrder := mod_lt _

/-- Both sides of an equation between reduced numbers are equal if they are in the field. -/
theorem eq_of_cast_eq {a b : Nat} (ha : a < fieldOrder) (hb : b < fieldOrder)
    (h : (a : Field) = b) : a = b := by
  rw [ZMod.natCast_eq_natCast_iff', Nat.mod_eq_of_lt ha, Nat.mod_eq_of_lt hb] at h
  exact h

theorem cast_inverse {a : Nat} (h : (a : Field) ≠ 0) :
    (a : Field) * (inverse fieldOrder a : Nat) = 1 := by
  have hlt : fieldOrder - 2 < 2 ^ 256 := by decide
  rw [inverse, pow_eq a prime_fieldOrder.one_lt hlt, ZMod.natCast_mod, Nat.cast_pow, ← pow_succ']
  exact ZMod.pow_card_sub_one_eq_one h

theorem cast_rightSide (x : Nat) :
    ((rightSide x : Nat) : Field) = (x : Field) ^ 3 - 3 * x + constantTerm := by
  rw [rightSide, cast_sub _ (mod_lt _)]
  simp only [ZMod.natCast_mod, Nat.cast_add, Nat.cast_mul, Nat.cast_ofNat]
  ring

/-! ## The equation of the curve -/

/-- The equation of the curve in Jacobian coordinates. -/
def Jacobian.Holds (q : Jacobian) : Prop :=
  (q.y : Field) ^ 2 =
    (q.x : Field) ^ 3 - 3 * q.x * (q.z : Field) ^ 4 + constantTerm * (q.z : Field) ^ 6

/-- A point in Jacobian coordinates: the equation holds, and the denominator is reduced. -/
structure Jacobian.OnCurve (q : Jacobian) : Prop where
  equation : q.Holds
  reduced : q.z < fieldOrder

namespace Jacobian

theorem onCurve_neutral : neutral.OnCurve := by
  refine ⟨?_, prime_fieldOrder.pos⟩
  simp [Holds, neutral]

theorem onCurve_ofPoint {q : Point} (h : q.isValid = true) : (ofPoint q).OnCurve := by
  refine ⟨?_, prime_fieldOrder.one_lt⟩
  simp only [Point.isValid, Bool.and_eq_true, decide_eq_true_eq, beq_iff_eq] at h
  have heq := congrArg (Nat.cast : Nat → Field) h.2
  rw [cast_rightSide, ZMod.natCast_mod, Nat.cast_mul] at heq
  simp only [Holds, ofPoint, Nat.cast_one]
  linear_combination heq

theorem onCurve_double {q : Jacobian} (h : q.OnCurve) : q.double.OnCurve := by
  refine ⟨?_, mod_lt _⟩
  have heq : (q.y : Field) ^ 2 = _ := h.equation
  simp only [Holds, double, cast_sub _ (mod_lt _), cast_sub _ (sub_lt _ _), ZMod.natCast_mod,
    Nat.cast_mul, Nat.cast_add, Nat.cast_ofNat]
  linear_combination 64 * (q.y : Field) ^ 6 * heq

/-- The sum of two points by the chord through them. With `u`, `s` for the first point and `h`, `t`
for the differences to the second, over the common denominator `z`, the equation follows from those
of the points. -/
theorem equation_chord {u s h t z : Field}
    (hq : s ^ 2 = u ^ 3 - 3 * u * z ^ 4 + constantTerm * z ^ 6)
    (hr : (s + t) ^ 2 = (u + h) ^ 3 - 3 * (u + h) * z ^ 4 + constantTerm * z ^ 6) :
    let x := t ^ 2 - h ^ 3 - 2 * (u * h ^ 2)
    (t * (u * h ^ 2 - x) - s * h ^ 3) ^ 2 =
      x ^ 3 - 3 * x * (h * z) ^ 4 + constantTerm * (h * z) ^ 6 := by
  intro x
  have hx : x = t ^ 2 - h ^ 3 - 2 * (u * h ^ 2) := rfl
  rw [hx]
  linear_combination
    (h ^ 6 - (h ^ 3 * (t ^ 2 - h ^ 3 - 2 * (u * h ^ 2)) - h ^ 5 * u)) * hq +
      (h ^ 3 * (t ^ 2 - h ^ 3 - 2 * (u * h ^ 2)) - h ^ 5 * u) * hr

theorem onCurve_add {q r : Jacobian} (hq : q.OnCurve) (hr : r.OnCurve) : (q.add r).OnCurve := by
  unfold add
  split
  · exact hr
  · split
    · exact hq
    · dsimp only
      split
      · split
        · exact onCurve_double hq
        · exact onCurve_neutral
      · refine ⟨?_, mod_lt _⟩
        have heqq : (q.y : Field) ^ 2 = _ := hq.equation
        have heqr : (r.y : Field) ^ 2 = _ := hr.equation
        -- Both points over the common denominator `q.z * r.z`.
        have hfirst : ((q.y : Field) * r.z ^ 3) ^ 2 = ((q.x : Field) * r.z ^ 2) ^ 3 -
            3 * ((q.x : Field) * r.z ^ 2) * (q.z * r.z) ^ 4 + constantTerm * (q.z * r.z) ^ 6 := by
          linear_combination (r.z : Field) ^ 6 * heqq
        have hsecond : ((q.y : Field) * r.z ^ 3 + (r.y * q.z ^ 3 - q.y * r.z ^ 3)) ^ 2 =
            ((q.x : Field) * r.z ^ 2 + (r.x * q.z ^ 2 - q.x * r.z ^ 2)) ^ 3 -
              3 * ((q.x : Field) * r.z ^ 2 + (r.x * q.z ^ 2 - q.x * r.z ^ 2)) *
                (q.z * r.z) ^ 4 + constantTerm * (q.z * r.z) ^ 6 := by
          linear_combination (q.z : Field) ^ 6 * heqr
        have hchord := equation_chord hfirst hsecond
        simp only [Holds, cast_sub _ (mod_lt _), cast_sub _ (sub_lt _ _), ZMod.natCast_mod,
          Nat.cast_mul, Nat.cast_ofNat]
        linear_combination hchord

theorem onCurve_mulFrom (k : Nat) {q : Jacobian} (hq : q.OnCurve) (n : Nat) {acc : Jacobian}
    (hacc : acc.OnCurve) : (mulFrom k q n acc).OnCurve := by
  induction n generalizing acc with
  | zero => exact hacc
  | succ n ih =>
    rw [mulFrom]
    apply ih
    split
    · exact onCurve_add (onCurve_double hacc) hq
    · exact onCurve_double hacc

theorem isValid_of_toPoint? {q : Jacobian} (hq : q.OnCurve) {p : Point}
    (h : q.toPoint? = some p) : p.isValid = true := by
  rw [toPoint?] at h
  split at h
  · cases h
  · rename_i hz
    obtain rfl := Option.some.inj h
    have hzne : (q.z : Field) ≠ 0 := by
      intro hzero
      refine hz (eq_of_cast_eq hq.reduced prime_fieldOrder.pos ?_)
      rw [hzero, Nat.cast_zero]
    have hinv := cast_inverse hzne
    have heq : (q.y : Field) ^ 2 = _ := hq.equation
    simp only [Point.isValid, Bool.and_eq_true, decide_eq_true_eq, beq_iff_eq]
    refine ⟨⟨mod_lt _, mod_lt _⟩, eq_of_cast_eq (mod_lt _) (sub_lt _ _) ?_⟩
    rw [cast_rightSide]
    simp only [ZMod.natCast_mod, Nat.cast_mul]
    -- The equation is multiplied by the sixth power of the inverse of the denominator.
    set z : Field := (q.z : Field)
    set i : Field := ((inverse fieldOrder q.z : Nat) : Field)
    have hfour : (z * i) ^ 4 = 1 := by rw [hinv, one_pow]
    have hsix : (z * i) ^ 6 = 1 := by rw [hinv, one_pow]
    linear_combination i ^ 6 * heq - 3 * (q.x : Field) * i ^ 2 * hfour + constantTerm * hsix

end Jacobian

theorem isValid_generator : generator.isValid = true := by
  decide +kernel

/-- The public half of a key is a point of the curve. -/
theorem isValid_publicKey (key : PrivateKey) : key.publicKey.point.isValid = true := by
  have hmul := Jacobian.onCurve_mulFrom key.scalar (Jacobian.onCurve_ofPoint isValid_generator) 256
    Jacobian.onCurve_neutral
  rw [PrivateKey.publicKey]
  cases h : mulGenerator? key.scalar with
  | none => exact isValid_generator
  | some p => exact Jacobian.isValid_of_toPoint? hmul h

end Gatehouse.P256
