import Gatehouse.Positional
import Mathlib.Algebra.Ring.Nat
import Mathlib.Data.List.Induction

/-!
# Reading written digits back

`ofDigits` after `digits` is the remainder modulo the number of numerals of that width; a number
that fits the width is read back as it was. The other way round, digits below the base are written
again as they were.
-/

namespace Gatehouse.Positional

theorem ofDigits_digits (b width n : Nat) :
    ofDigits b (digits b width n) = n % b ^ width := by
  induction width generalizing n with
  | zero => simp [digits, Nat.mod_one]
  | succ width ih =>
    rw [digits, ofDigits_concat, ih, Nat.pow_succ, Nat.mul_comm (b ^ width) b, Nat.mod_mul,
      Nat.mul_comm]
    omega

theorem ofDigits_digits_of_lt {b width n : Nat} (h : n < b ^ width) :
    ofDigits b (digits b width n) = n := by
  rw [ofDigits_digits, Nat.mod_eq_of_lt h]

/-! ## Writing read digits again -/

theorem ofDigits_lt {b : Nat} {ds : List Nat} (h : ∀ d ∈ ds, d < b) :
    ofDigits b ds < b ^ ds.length := by
  induction ds using List.reverseRecOn with
  | nil => simp
  | append_singleton ds d ih =>
    have hd : d < b := h d (by simp)
    have hds : ofDigits b ds + 1 ≤ b ^ ds.length := ih fun e he => h e (by simp [he])
    have hmul : (ofDigits b ds + 1) * b ≤ b ^ ds.length * b := Nat.mul_le_mul_right b hds
    rw [ofDigits_concat, List.length_append, List.length_singleton, Nat.pow_succ]
    rw [Nat.add_mul] at hmul
    omega

/-- A list of digits is the numeral of its width that the number it writes has. -/
theorem digits_ofDigits {b : Nat} {ds : List Nat} (h : ∀ d ∈ ds, d < b) :
    digits b ds.length (ofDigits b ds) = ds := by
  induction ds using List.reverseRecOn with
  | nil => rfl
  | append_singleton ds d ih =>
    have hd : d < b := h d (by simp)
    have hb : 0 < b := by omega
    have hdiv : (ofDigits b ds * b + d) / b = ofDigits b ds := by
      rw [Nat.mul_comm, Nat.mul_add_div hb, Nat.div_eq_of_lt hd, Nat.add_zero]
    have hmod : (ofDigits b ds * b + d) % b = d := by
      rw [Nat.mul_comm, Nat.mul_add_mod, Nat.mod_eq_of_lt hd]
    rw [ofDigits_concat, List.length_append, List.length_singleton, digits, hdiv, hmod,
      ih fun e he => h e (by simp [he])]

end Gatehouse.Positional
