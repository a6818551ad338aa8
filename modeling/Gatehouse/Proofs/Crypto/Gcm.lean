import Gatehouse.Crypto.Gcm
import Mathlib.Data.List.Basic

/-!
# Authenticated encryption is inverted

The block cipher is followed only as far as the lengths go: it makes blocks of sixteen bytes from
blocks of sixteen bytes. So the key stream is as long as the text, the text comes back when it is
applied again, and the tag is what a reader of the ciphertext computes.
-/

namespace Gatehouse

/-! ## Exclusive or -/

namespace Bytes

@[simp] theorem length_xor (a b : Bytes) : (xor a b).length = min a.length b.length :=
  List.length_zipWith

theorem xor_xor {a b : Bytes} (h : a.length ≤ b.length) : xor (xor a b) b = a := by
  induction a generalizing b with
  | nil => rfl
  | cons x a ih =>
    cases b with
    | nil => exact absurd h (by simp)
    | cons y b =>
      have hrest : xor (xor a b) b = a := ih (by simpa using h)
      show ((x ^^^ y) ^^^ y) :: xor (xor a b) b = x :: a
      rw [hrest, UInt8.xor_assoc, UInt8.xor_self, UInt8.xor_zero]

end Bytes

/-! ## Blocks -/

namespace Aes

/-- A round key or a block. -/
def IsBlock (bs : Bytes) : Prop := bs.length = 16

theorem IsBlock.xor {a b : Bytes} (ha : IsBlock a) (hb : IsBlock b) : IsBlock (Bytes.xor a b) := by
  rw [IsBlock, Bytes.length_xor, ha, hb, Nat.min_self]

theorem length_nextHalf {mix : Bytes → Bytes} (hmix : ∀ w : Bytes, w.length = 4 → (mix w).length = 4)
    {previous : Bytes} (h : previous.length = 32) : IsBlock (nextHalf mix previous) := by
  have hlast : (mix (previous.drop 28)).length = 4 := hmix _ (by rw [List.length_drop, h])
  simp [IsBlock, nextHalf, hlast, h]

theorem length_mixFirst (i : Nat) {word : Bytes} (h : word.length = 4) :
    (mixFirst i word).length = 4 := by
  simp [mixFirst, h]

/-- Every group of eight words gives two round keys and the group after it. -/
theorem isBlock_of_mem_roundKeysFrom (count i : Nat) {group : Bytes} (h : group.length = 32) :
    ∀ key ∈ roundKeysFrom count i group, IsBlock key := by
  induction count generalizing i group with
  | zero => exact nofun
  | succ count ih =>
    have hsubstituted : ∀ w : Bytes, w.length = 4 → (w.map subByte).length = 4 :=
      fun w hw => by rw [List.length_map, hw]
    -- Four words are made from the last eight, and four more from the last four and these.
    have hfirst := length_nextHalf (fun _ => length_mixFirst i) h
    have hgroup : (group.drop 16 ++ nextHalf (mixFirst i) group).length = 32 := by
      rw [List.length_append, List.length_drop, h, hfirst]
    have hsecond := length_nextHalf hsubstituted hgroup
    have htake : IsBlock (group.take 16) := by
      rw [IsBlock, List.length_take, h]
      rfl
    have hdrop : IsBlock (group.drop 16) := by
      rw [IsBlock, List.length_drop, h]
    rw [roundKeysFrom]
    refine List.forall_mem_cons.2 ⟨htake, List.forall_mem_cons.2 ⟨hdrop, ih (i + 1) ?_⟩⟩
    rw [List.length_append, hfirst, hsecond]

theorem isBlock_of_mem_roundKeys {key : Bytes} (h : key.length = keySize) :
    ∀ k ∈ roundKeys key, IsBlock k :=
  fun k hk => isBlock_of_mem_roundKeysFrom 8 0 h k (List.mem_of_mem_take hk)

theorem isBlock_shiftRows (block : Bytes) : IsBlock (shiftRows block) := by
  rw [IsBlock, shiftRows, List.length_map]
  rfl

theorem length_mixColumns (block : Bytes) : (mixColumns block).length = block.length := by
  induction block using mixColumns.induct with
  | case1 a b c d rest ih => simp [mixColumns, ih]
  | case2 rest hrest => rw [mixColumns]; exact hrest

/-- Rounds lead from blocks to blocks. -/
theorem isBlock_rounds {keys : List Bytes} (hkeys : ∀ k ∈ keys, IsBlock k) {block : Bytes}
    (h : IsBlock block) : IsBlock (rounds keys block) := by
  have hsubstituted : ∀ b : Bytes, IsBlock (mixColumns (shiftRows (b.map subByte))) :=
    fun b => (length_mixColumns _).trans (isBlock_shiftRows _)
  induction keys generalizing block with
  | nil => exact h
  | cons key keys ih =>
    rw [List.forall_mem_cons] at hkeys
    cases keys with
    | nil => exact (isBlock_shiftRows _).xor hkeys.1
    | cons next keys => exact ih hkeys.2 ((hsubstituted block).xor hkeys.1)

theorem isBlock_encryptWith {keys : List Bytes} (hkeys : ∀ k ∈ keys, IsBlock k) {block : Bytes}
    (h : IsBlock block) : IsBlock (encryptWith keys block) := by
  cases keys with
  | nil => exact h
  | cons key keys =>
    rw [List.forall_mem_cons] at hkeys
    exact isBlock_rounds hkeys.2 (h.xor hkeys.1)

end Aes

/-! ## Counter mode -/

namespace Gcm

open Aes (IsBlock)

/-- What a cipher needs: round keys that are blocks, and a nonce that leaves room for a counter. -/
structure Suits (keys : List Bytes) (nonce : Bytes) : Prop where
  keys : ∀ k ∈ keys, IsBlock k
  nonce : nonce.length = nonceSize

theorem suits_roundKeys {key nonce : Bytes} (hkey : key.length = Aes.keySize)
    (hnonce : nonce.length = nonceSize) : Suits (Aes.roundKeys key) nonce :=
  ⟨Aes.isBlock_of_mem_roundKeys hkey, hnonce⟩

variable {keys : List Bytes} {nonce : Bytes}

theorem Suits.isBlock_counterBlock (h : Suits keys nonce) (n : Nat) :
    IsBlock (counterBlock nonce n) := by
  rw [IsBlock, counterBlock, List.length_append, h.nonce, Bytes.length_ofNat]
  rfl

theorem Suits.length_keyStream (h : Suits keys nonce) (n i : Nat) :
    (keyStream keys nonce n i).length = 16 * n := by
  induction n generalizing i with
  | zero => rfl
  | succ n ih =>
    have hblock : (Aes.encryptWith keys (counterBlock nonce i)).length = 16 :=
      Aes.isBlock_encryptWith h.keys (h.isBlock_counterBlock i)
    rw [keyStream, List.length_append, hblock, ih]
    omega

/-- The key stream covers the text. -/
theorem Suits.le_length_keyStream (h : Suits keys nonce) (bs : Bytes) :
    bs.length ≤ (keyStream keys nonce ((bs.length + 15) / 16) 2).length := by
  rw [h.length_keyStream]
  omega

theorem Suits.length_crypt (h : Suits keys nonce) (bs : Bytes) :
    (crypt keys nonce bs).length = bs.length := by
  rw [crypt, Bytes.length_xor]
  exact Nat.min_eq_left (h.le_length_keyStream bs)

/-- The key stream takes a text back when it is applied again. -/
theorem Suits.crypt_crypt (h : Suits keys nonce) (bs : Bytes) :
    crypt keys nonce (crypt keys nonce bs) = bs := by
  -- The text keeps its length, so the key stream is the same both times.
  have hlength := h.length_crypt bs
  rw [crypt, hlength, crypt]
  exact Bytes.xor_xor (h.le_length_keyStream bs)

theorem Suits.length_tag (h : Suits keys nonce) (aad ciphertext : Bytes) :
    (tag keys nonce aad ciphertext).length = tagSize := by
  have hblock : (Aes.encryptWith keys (counterBlock nonce 1)).length = 16 :=
    Aes.isBlock_encryptWith h.keys (h.isBlock_counterBlock 1)
  rw [tag, Bytes.length_xor, Bytes.length_ofNat, hblock]
  rfl

/-! ## Ciphertexts with tags -/

variable {key : Bytes}

theorem length_encrypt (hkey : key.length = Aes.keySize) (hnonce : nonce.length = nonceSize)
    (aad plaintext : Bytes) :
    (encrypt key nonce aad plaintext).length = plaintext.length + tagSize := by
  have hsuits := suits_roundKeys hkey hnonce
  rw [encrypt, List.length_append, hsuits.length_crypt, hsuits.length_tag]

/-- What is decrypted is exactly what has been encrypted. -/
theorem decrypt?_eq_some_iff (hkey : key.length = Aes.keySize) (hnonce : nonce.length = nonceSize)
    {aad sealed plaintext : Bytes} :
    decrypt? key nonce aad sealed = some plaintext ↔
      sealed = encrypt key nonce aad plaintext := by
  have hsuits := suits_roundKeys hkey hnonce
  constructor
  · intro h
    rw [decrypt?] at h
    split at h
    · cases h
    · rw [Option.ite_none_right_eq_some] at h
      obtain ⟨htag, h⟩ := h
      obtain rfl := Option.some.inj h
      -- The ciphertext is the text under the key stream again.
      rw [encrypt, hsuits.crypt_crypt, htag, List.take_append_drop]
  · -- The tag is cut off where it has been put on.
    rintro rfl
    have hlength := length_encrypt hkey hnonce aad plaintext
    have hsplit : (encrypt key nonce aad plaintext).length - tagSize =
        (crypt (Aes.roundKeys key) nonce plaintext).length := by
      rw [hlength, hsuits.length_crypt]
      omega
    have hlong : ¬(encrypt key nonce aad plaintext).length < tagSize := by omega
    rw [decrypt?, if_neg hlong, hsplit, encrypt]
    dsimp only
    rw [List.take_left, List.drop_left, if_pos rfl, hsuits.crypt_crypt]

end Gcm
end Gatehouse
