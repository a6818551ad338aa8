import Gatehouse.Crypto.P256
import Mathlib.NumberTheory.LucasPrimality
import Mathlib.Data.List.Prime
import Mathlib.Tactic.NormNum.Prime

/-!
# The field of the curve

The order of the field is prime, by Lucas's test: the number below it is factored, and a witness has
no smaller order modulo it. The great factors are shown to be prime in the same way. The powers are
those that the curve itself is computed with.
-/

namespace Gatehouse.P256

/-! ## Powers -/

theorem powFrom_modEq (m base exponent n acc : Nat) :
    powFrom m base exponent n acc ≡ acc ^ 2 ^ n * base ^ (exponent % 2 ^ n) [MOD m] := by
  induction n generalizing acc with
  | zero => simp [powFrom, Nat.mod_one, Nat.ModEq.refl]
  | succ n ih =>
    have hbit : exponent % 2 ^ (n + 1) = 2 ^ n * (exponent.testBit n).toNat + exponent % 2 ^ n := by
      rw [Nat.mod_pow_succ, Nat.add_comm, Nat.toNat_testBit]
    have hsquare : acc * acc % m ≡ acc * acc [MOD m] := Nat.mod_modEq _ _
    rw [powFrom, hbit]
    refine (ih _).trans ?_
    -- The accumulator is squared, and multiplied by the base if the bit is set.
    cases exponent.testBit n with
    | true =>
      have hstep : acc * acc % m * base % m ≡ acc * acc * base [MOD m] :=
        (Nat.mod_modEq _ _).trans (hsquare.mul_right base)
      have hpow := (hstep.pow (2 ^ n)).mul_right (base ^ (exponent % 2 ^ n))
      have hring : (acc * acc * base) ^ 2 ^ n * base ^ (exponent % 2 ^ n) =
          acc ^ 2 ^ (n + 1) * base ^ (2 ^ n * 1 + exponent % 2 ^ n) := by
        ring
      rw [hring] at hpow
      exact hpow
    | false =>
      have hpow := (hsquare.pow (2 ^ n)).mul_right (base ^ (exponent % 2 ^ n))
      have hring : (acc * acc) ^ 2 ^ n * base ^ (exponent % 2 ^ n) =
          acc ^ 2 ^ (n + 1) * base ^ (2 ^ n * 0 + exponent % 2 ^ n) := by
        ring
      rw [hring] at hpow
      exact hpow

theorem powFrom_lt {m : Nat} (hm : 1 < m) (base exponent n : Nat) {acc : Nat} (hacc : acc < m) :
    powFrom m base exponent n acc < m := by
  induction n generalizing acc with
  | zero => exact hacc
  | succ n ih =>
    rw [powFrom]
    apply ih
    split <;> exact Nat.mod_lt _ (by omega)

theorem powFrom_one_modEq (m base exponent n : Nat) :
    powFrom m base exponent n 1 ≡ base ^ (exponent % 2 ^ n) [MOD m] := by
  have h := powFrom_modEq m base exponent n 1
  rwa [one_pow, one_mul] at h

theorem pow_eq {m exponent : Nat} (base : Nat) (hm : 1 < m) (h : exponent < 2 ^ 256) :
    pow m base exponent = base ^ exponent % m := by
  have hmod := powFrom_one_modEq m (base % m) exponent 256
  rw [Nat.mod_eq_of_lt h] at hmod
  have hlt : pow m base exponent < m := powFrom_lt hm _ _ _ hm
  have hbase : (base % m) ^ exponent ≡ base ^ exponent [MOD m] := (Nat.mod_modEq base m).pow _
  rw [← Nat.mod_eq_of_lt hlt]
  exact hmod.trans hbase

/-! ## Lucas's test -/

/-- A number is prime if a witness has the order of the number below it, whose prime factors are
given, the small ones first. -/
theorem prime_of_witness {p : Nat} (a : Nat) (small great : List Nat)
    (hsmall : ∀ q ∈ small, q.Prime) (hgreat : ∀ q ∈ great, q.Prime)
    (hprod : (small ++ great).prod = p - 1) (hp : 1 < p) (hp256 : p < 2 ^ 256)
    (hone : pow p a (p - 1) = 1) (hother : ∀ q ∈ small ++ great, pow p a ((p - 1) / q) ≠ 1) :
    p.Prime := by
  have hprime : ∀ q ∈ small ++ great, q.Prime := List.forall_mem_append.2 ⟨hsmall, hgreat⟩
  have hpow : ∀ n, n < 2 ^ 256 → ((a : ZMod p) ^ n = 1 ↔ pow p a n = 1) := by
    intro n hn
    rw [pow_eq a hp hn, ← Nat.cast_pow, ← Nat.cast_one, ZMod.natCast_eq_natCast_iff',
      Nat.mod_eq_of_lt hp]
  refine lucas_primality p a ((hpow _ (by omega)).2 hone) fun q hq hdvd heq => ?_
  -- A prime factor is one of those given, since they are prime and their product is all.
  rw [← hprod] at hdvd
  obtain ⟨r, hr, hqr⟩ := (Prime.dvd_prod_iff hq.prime).1 hdvd
  obtain rfl := (Nat.prime_dvd_prime_iff_eq hq (hprime r hr)).1 hqr
  have hlt : (p - 1) / q < 2 ^ 256 := by
    have hle := Nat.div_le_self (p - 1) q
    omega
  exact hother q hr ((hpow _ hlt).1 heq)

/-! ## The factors -/

theorem prime_factor₁ : Nat.Prime 204061199 := by
  refine prime_of_witness 11 [2, 11, 23, 107, 3769] [] ?_ nofun rfl ?_ ?_ ?_ ?_
  · norm_num
  all_goals decide +kernel

theorem prime_factor₂ : Nat.Prime 34282281433 := by
  refine prime_of_witness 17 [2, 2, 2, 3, 7] [204061199] ?_ ?_ rfl ?_ ?_ ?_ ?_
  · norm_num
  · exact List.forall_mem_singleton.2 prime_factor₁
  all_goals decide +kernel

theorem prime_factor₃ : Nat.Prime 66417393611 := by
  refine prime_of_witness 6 [2, 5, 53, 173, 197, 3677] [] ?_ nofun rfl ?_ ?_ ?_ ?_
  · norm_num
  all_goals decide +kernel

theorem prime_factor₄ : Nat.Prime 11290956913871 := by
  refine prime_of_witness 13 [2, 5, 17] [66417393611] ?_ ?_ rfl ?_ ?_ ?_ ?_
  · norm_num
  · exact List.forall_mem_singleton.2 prime_factor₃
  all_goals decide +kernel

theorem prime_factor₅ : Nat.Prime 46076956964474543 := by
  refine prime_of_witness 5 [2, 23, 18169, 78283, 704251] [] ?_ nofun rfl ?_ ?_ ?_ ?_
  · norm_num
  all_goals decide +kernel

theorem prime_factor₆ : Nat.Prime 774023187263532362759620327192479577272145303 := by
  refine prime_of_witness 3 [2, 3, 3, 2411] [34282281433, 11290956913871, 46076956964474543]
    ?_ ?_ rfl ?_ ?_ ?_ ?_
  · norm_num
  · refine List.forall_mem_cons.2 ⟨prime_factor₂, List.forall_mem_cons.2 ⟨prime_factor₄, ?_⟩⟩
    exact List.forall_mem_singleton.2 prime_factor₅
  all_goals decide +kernel

theorem prime_factor₇ : Nat.Prime 835945042244614951780389953367877943453916927241 := by
  refine prime_of_witness 11 [2, 2, 2, 3, 3, 3, 5] [774023187263532362759620327192479577272145303]
    ?_ ?_ rfl ?_ ?_ ?_ ?_
  · norm_num
  · exact List.forall_mem_singleton.2 prime_factor₆
  all_goals decide +kernel

/-- The order of the field is prime. -/
theorem prime_fieldOrder : fieldOrder.Prime := by
  refine prime_of_witness 6 [2, 3, 5, 5, 17, 257, 641, 1531, 65537, 490463, 6700417]
    [835945042244614951780389953367877943453916927241] ?_ ?_ rfl ?_ ?_ ?_ ?_
  · norm_num
  · exact List.forall_mem_singleton.2 prime_factor₇
  all_goals decide +kernel

end Gatehouse.P256
