/-!
# Positional numerals of fixed width

`digits b w n` writes the `w` low digits of `n` in base `b`, most significant first, and
`ofDigits b` reads digits back. Byte strings, hexadecimal text and the base-36 suffix of an
external id are all numerals of this kind.
-/

namespace Gatehouse.Positional

/-- The `width` low digits of `n` in base `b`, most significant first. -/
def digits (b : Nat) : (width : Nat) → (n : Nat) → List Nat
  | 0, _ => []
  | width + 1, n => digits b width (n / b) ++ [n % b]

/-- The number that the digits `ds` write in base `b`. -/
def ofDigits (b : Nat) (ds : List Nat) : Nat :=
  ds.foldl (fun n d => n * b + d) 0

/-! ## Writing -/

@[simp] theorem length_digits (b width n : Nat) : (digits b width n).length = width := by
  induction width generalizing n with
  | zero => rfl
  | succ width ih => simp [digits, ih]

theorem lt_of_mem_digits {b width n d : Nat} (hb : 0 < b) (h : d ∈ digits b width n) : d < b := by
  induction width generalizing n with
  | zero => simp [digits] at h
  | succ width ih =>
    simp only [digits, List.mem_append, List.mem_singleton] at h
    rcases h with h | rfl
    · exact ih h
    · exact Nat.mod_lt _ hb

/-! ## Reading -/

@[simp] theorem ofDigits_nil (b : Nat) : ofDigits b [] = 0 := rfl

@[simp] theorem ofDigits_concat (b : Nat) (ds : List Nat) (d : Nat) :
    ofDigits b (ds ++ [d]) = ofDigits b ds * b + d := by
  simp [ofDigits]

end Gatehouse.Positional
