import Gatehouse.Proofs.Base64
import Gatehouse.Session.Token.Compact
import Mathlib.Data.List.TakeWhile

/-!
# Cutting tokens

A text is cut at its last two dots. Since no part in base64 holds a dot, a token that is made of
such parts is cut into exactly these.
-/

namespace Gatehouse.CompactToken

theorem cutLast?_eq_some_iff {cs before after : List Char} :
    cutLast? cs = some (before, after) ↔ cs = before ++ '.' :: after ∧ '.' ∉ after := by
  constructor
  · intro h
    rw [cutLast?] at h
    -- The text is read from behind, up to the first dot.
    have hsplit := List.takeWhile_append_dropWhile (p := (· != '.')) (l := cs.reverse)
    cases hdrop : cs.reverse.dropWhile (· != '.') with
    | nil =>
      rw [hdrop] at h
      cases h
    | cons d rest =>
      rw [hdrop] at h hsplit
      obtain ⟨rfl, rfl⟩ := Prod.mk.inj (Option.some.inj h)
      have hdot : d = '.' := by
        have hhead := List.head?_dropWhile_not (· != '.') cs.reverse
        rw [hdrop] at hhead
        simpa using hhead
      subst hdot
      constructor
      · have hcs := congrArg List.reverse hsplit
        rw [List.reverse_append, List.reverse_cons, List.reverse_reverse, List.append_assoc] at hcs
        exact hcs.symm
      · intro hmem
        simpa using List.mem_takeWhile_imp (List.mem_reverse.1 hmem)
  · rintro ⟨rfl, hafter⟩
    have hother : ∀ c ∈ after.reverse, (c != '.') = true := by
      intro c hc
      rw [bne_iff_ne]
      rintro rfl
      exact hafter (List.mem_reverse.1 hc)
    have hreverse : (before ++ '.' :: after).reverse = after.reverse ++ '.' :: before.reverse := by
      simp
    rw [cutLast?, hreverse, List.dropWhile_append_of_pos hother,
      List.takeWhile_append_of_pos hother]
    simp

theorem toList_render (t : CompactToken) :
    t.render.toList =
      (t.header.toList ++ '.' :: t.payload.toList) ++ '.' :: t.signature.toList := by
  simp [render, toString]

theorem toList_message (t : CompactToken) :
    s!"{t.header}.{t.payload}".toList = t.header.toList ++ '.' :: t.payload.toList := by
  simp [toString]

/-- A text is cut into the parts that make it, if no dot is in the last two. -/
theorem parse?_eq_some_iff {s : String} {t : CompactToken} :
    parse? s = some t ↔ s = t.render ∧ '.' ∉ t.payload.toList ∧ '.' ∉ t.signature.toList := by
  obtain ⟨header, payload, signature⟩ := t
  rw [← String.toList_inj, toList_render, parse?]
  constructor
  · intro h
    obtain ⟨⟨message, last⟩, hlast, h⟩ := Option.bind_eq_some_iff.1 h
    obtain ⟨⟨first, second⟩, hsecond, h⟩ := Option.bind_eq_some_iff.1 h
    -- The signature is cut off first, then the payload from what is left.
    obtain ⟨hs, hdotLast⟩ := cutLast?_eq_some_iff.1 hlast
    obtain ⟨hmessage, hdotSecond⟩ := cutLast?_eq_some_iff.1 hsecond
    obtain ⟨rfl, rfl, rfl⟩ := CompactToken.mk.inj (Option.some.inj h)
    simp only [String.toList_ofList]
    exact ⟨by rw [hs, hmessage], hdotSecond, hdotLast⟩
  · rintro ⟨hs, hpayload, hsignature⟩
    have hlast := cutLast?_eq_some_iff.2 ⟨hs, hsignature⟩
    have hsecond : cutLast? (header.toList ++ '.' :: payload.toList) =
        some (header.toList, payload.toList) := cutLast?_eq_some_iff.2 ⟨rfl, hpayload⟩
    rw [hlast, Option.bind_eq_bind, Option.bind_some]
    simp only [hsecond, Option.bind_some, String.ofList_toList]
    rfl

/-- The parts of a token in base64 hold no dot. -/
theorem dot_not_mem_of_decode? {part : String} {bs : Bytes}
    (h : Base64.urlSafe.decode? part = some bs) : '.' ∉ part.toList := by
  rw [(Base64.Dialect.decode?_eq_some_iff Base64.urlSafe_lawful).1 h]
  exact Base64.dot_not_mem_encode_urlSafe bs

theorem dot_not_mem_of_partJson? {part : String} {j : Json} (h : partJson? part = some j) :
    '.' ∉ part.toList := by
  obtain ⟨bs, hbs, -⟩ := Option.bind_eq_some_iff.1 h
  exact dot_not_mem_of_decode? hbs

end Gatehouse.CompactToken
