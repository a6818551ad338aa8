import Gatehouse.Bytes
import Gatehouse.Positional.Lemmas

/-!
# Numbers in byte strings

A number that fits the width of a byte string is read back from it, and a byte string is the one
that its number has at its length.
-/

namespace Gatehouse.Bytes

theorem toNat_uint8_ofNat {n : Nat} (h : n < 256) : (UInt8.ofNat n).toNat = n :=
  UInt8.toNat_ofNat_of_lt' h

theorem lt_of_mem_map_toNat (bs : Bytes) : ∀ d ∈ bs.map UInt8.toNat, d < 256 := by
  intro d hd
  obtain ⟨b, -, rfl⟩ := List.mem_map.mp hd
  exact b.toNat_lt

theorem toNat_lt (bs : Bytes) : toNat bs < 256 ^ bs.length := by
  simpa [toNat] using Positional.ofDigits_lt (lt_of_mem_map_toNat bs)

/-- A number that fits is read back. -/
theorem toNat_ofNat {width n : Nat} (h : n < 256 ^ width) : toNat (ofNat width n) = n := by
  have hbytes : ((Positional.digits 256 width n).map UInt8.ofNat).map UInt8.toNat =
      Positional.digits 256 width n := by
    rw [List.map_map]
    conv_rhs => rw [← List.map_id (Positional.digits 256 width n)]
    exact List.map_congr_left fun d hd =>
      toNat_uint8_ofNat (Positional.lt_of_mem_digits (by decide) hd)
  rw [toNat, ofNat, hbytes, Positional.ofDigits_digits_of_lt h]

/-- A byte string is the one that its number has at its length. -/
theorem ofNat_toNat (bs : Bytes) : ofNat bs.length (toNat bs) = bs := by
  have hdigits := Positional.digits_ofDigits (lt_of_mem_map_toNat bs)
  rw [List.length_map] at hdigits
  rw [ofNat, toNat, hdigits, List.map_map]
  exact List.map_id'' (fun b => UInt8.ofNat_toNat) bs

end Gatehouse.Bytes
