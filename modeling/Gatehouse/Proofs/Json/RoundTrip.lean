import Gatehouse.Proofs.Json.Lexeme
import Gatehouse.Json.Decode
import Gatehouse.Proofs.Utf8

/-!
# Written values are read back

The reader inverts the writer on sound values. The fuel that a value takes is bounded by the length
of its text, so the fuel of a whole document is enough.
-/

namespace Gatehouse.Json

namespace Reader

/-! ## How a written value begins -/

/-- A character that a value may begin with. -/
def Opens (c : Char) : Prop :=
  c ≠ ' ' ∧ c ≠ '\n' ∧ c ≠ '\t' ∧ c ≠ '\r' ∧ c ≠ ']'

instance (c : Char) : Decidable (Opens c) := inferInstanceAs (Decidable (_ ∧ _))

theorem skipBlank_of_opens {c : Char} (h : Opens c) (rest : Input) :
    skipBlank (some c :: rest) = some c :: rest := by
  obtain ⟨hspace, hline, htab, hreturn, -⟩ := h
  have hblank : ¬(c = ' ' ∨ c = '\n' ∨ c = '\t' ∨ c = '\r') := by
    rintro (h | h | h | h)
    · exact hspace h
    · exact hline h
    · exact htab h
    · exact hreturn h
  rw [skipBlank, if_neg hblank]

theorem opens_of_isDigit {c : Char} (h : c.isDigit = true) : Opens c := by
  refine ⟨?_, ?_, ?_, ?_, ?_⟩ <;> rintro rfl <;> cases h

/-- A written number begins with a digit or a sign. -/
theorem exists_numeralChars_eq_cons (n : Numeral) :
    ∃ c cs, numeralChars n = c :: cs ∧ (c.isDigit = true ∨ c = '-') := by
  cases n with
  | integer n =>
    cases n with
    | ofNat n =>
      obtain ⟨c, cs, hcs, hc⟩ := exists_toDigits_eq_cons n
      exact ⟨c, cs, (toList_toString_ofNat n).trans hcs, .inl hc⟩
    | negSucc n => exact ⟨_, _, toList_toString_negSucc n, .inr rfl⟩
  | minusZero => exact ⟨_, _, rfl, .inr rfl⟩
  | decimal negative n e =>
    cases negative with
    | true => exact ⟨_, _, rfl, .inr rfl⟩
    | false =>
      obtain ⟨c, cs, hcs, hc⟩ := exists_toDigits_eq_cons n
      have hn : (toString n).toList = c :: cs := Nat.toList_repr.trans hcs
      refine ⟨c, cs ++ 'e' :: (toString e).toList, ?_, .inl hc⟩
      rw [numeralChars, hn]
      rfl

theorem exists_chars_eq_cons (j : Json) : ∃ c cs, chars j = c :: cs ∧ Opens c := by
  cases j with
  | null => exact ⟨_, _, by rw [chars], by decide⟩
  | bool b => cases b <;> exact ⟨_, _, by rw [chars], by decide⟩
  | number n =>
    obtain ⟨c, cs, hcs, hc⟩ := exists_numeralChars_eq_cons n
    refine ⟨c, cs, by rw [chars, hcs], ?_⟩
    rcases hc with hdigit | rfl
    · exact opens_of_isDigit hdigit
    · decide
  | string s => exact ⟨'"', _, by rw [chars, stringChars], by decide⟩
  | array vs => exact ⟨'[', _, by rw [chars], by decide⟩
  | object ms => exact ⟨'\x7b', _, by rw [chars], by decide⟩

/-- White space is not looked for in front of a written value in vain. -/
theorem skipBlank_chars (j : Json) (rest : Input) :
    skipBlank ((chars j).map some ++ rest) = (chars j).map some ++ rest := by
  obtain ⟨c, cs, hcs, hc⟩ := exists_chars_eq_cons j
  rw [hcs]
  exact skipBlank_of_opens hc _

/-! ## Values -/

theorem value_number (n : Numeral) (fuel : Nat) {rest : Input} (hrest : EndsNumber rest) :
    value (fuel + 1) ((numeralChars n).map some ++ rest) = some (.number n, rest) := by
  obtain ⟨c, cs, hcs, hc⟩ := exists_numeralChars_eq_cons n
  have hread := number_numeralChars n hrest
  have hskip := skipBlank_chars (.number n) rest
  rw [chars] at hskip
  rw [value, hskip]
  rw [hcs, List.map_cons, List.cons_append] at hread ⊢
  have hother : ∀ d more, some c :: (cs.map some ++ rest) = some d :: more →
      d.isDigit = true ∨ d = '-' := by
    intro d more heq
    rwa [← Option.some.inj (List.cons.inj heq).1]
  -- Every other kind of value begins with a character that is neither a digit nor a sign.
  split <;> rename_i heq
  · exact absurd (hother _ _ heq) (by decide)
  · exact absurd (hother _ _ heq) (by decide)
  · exact absurd (hother _ _ heq) (by decide)
  · exact absurd (hother _ _ heq) (by decide)
  · exact absurd (hother _ _ heq) (by decide)
  · exact absurd (hother _ _ heq) (by decide)
  · rw [hread]
    rfl

theorem value_stringChars (s : String) (fuel : Nat) (rest : Input) :
    value (fuel + 1) ((stringChars (some s)).map some ++ rest) =
      some (.string (some s), rest) := by
  rw [stringChars, List.map_cons, List.cons_append, value]
  simp only [skipBlank_of_opens (by decide : Opens '"')]
  rw [Option.getD_some, stringBody_escaped]
  rfl

/-- What follows an element: its closing bracket, or a comma. -/
theorem endsNumber_cons {c : Char} (h : c = ',' ∨ c = ']' ∨ c = '\x7d') (rest : Input) :
    EndsNumber (some c :: rest) := by
  intro d hd
  obtain rfl : some c = d := Option.some.inj hd
  simpa using h

/-! ## Arrays and objects -/

theorem elementChars_cons_cons (v w : Json) (ws : List Json) :
    elementChars (v :: w :: ws) = chars v ++ ',' :: elementChars (w :: ws) := by
  rw [elementChars]
  exact List.cons_ne_nil w ws

theorem memberChars_cons_cons (k : Option String) (v : Json) (n : Option String × Json)
    (ns : List (Option String × Json)) :
    memberChars ((k, v) :: n :: ns) =
      stringChars k ++ ':' :: (chars v ++ ',' :: memberChars (n :: ns)) := by
  rw [memberChars]
  exact List.cons_ne_nil n ns

theorem exists_elementChars_eq_cons (v : Json) (vs : List Json) :
    ∃ c cs, elementChars (v :: vs) = c :: cs ∧ Opens c := by
  obtain ⟨c, cs, hcs, hc⟩ := exists_chars_eq_cons v
  cases vs with
  | nil => exact ⟨c, cs ++ [']'], by rw [elementChars, hcs]; rfl, hc⟩
  | cons w ws =>
    exact ⟨c, cs ++ ',' :: elementChars (w :: ws), by rw [elementChars_cons_cons, hcs]; rfl, hc⟩

theorem exists_memberChars_eq_cons (m : Option String × Json) (ms : List (Option String × Json)) :
    ∃ cs, memberChars (m :: ms) = '"' :: cs := by
  obtain ⟨k, v⟩ := m
  cases ms with
  | nil => exact ⟨_, by rw [memberChars, stringChars]; rfl⟩
  | cons n ns => exact ⟨_, by rw [memberChars_cons_cons, stringChars]; rfl⟩

/-- The members from one that has been read on, by what follows it. -/
def membersAfter (fuel : Nat) (k : String) (v : Json) (more : Input) :
    Option (List (Option String × Json) × Input) :=
  match skipBlank more with
  | some ',' :: rest => (members fuel rest).bind fun r => some ((some k, v) :: r.1, r.2)
  | some '\x7d' :: rest => some ([(some k, v)], rest)
  | _ => none

/-- The first member is read back if its value is; what follows decides whether there are more. -/
theorem members_member (k : String) {v : Json} {fuel : Nat} {more : Input}
    (hv : value fuel ((chars v).map some ++ more) = some (v, more)) :
    members (fuel + 1)
        ((stringChars (some k)).map some ++ some ':' :: ((chars v).map some ++ more)) =
      membersAfter fuel k v more := by
  rw [stringChars, List.map_cons, List.cons_append, members]
  simp only [skipBlank_of_opens (by decide : Opens '"')]
  rw [Option.getD_some, stringBody_escaped]
  simp only [bind, Option.bind, skipBlank_of_opens (by decide : Opens ':'), hv]
  rfl

mutual

/-- A written value is read back, and what follows it is left. -/
theorem value_chars (j : Json) (hj : isSound j = true) (fuel : Nat)
    (hfuel : (chars j).length ≤ fuel) (rest : Input) (hrest : EndsNumber rest) :
    value fuel ((chars j).map some ++ rest) = some (j, rest) := by
  obtain ⟨d, ds, hds, -⟩ := exists_chars_eq_cons j
  obtain ⟨fuel, rfl⟩ : ∃ n, fuel = n + 1 := by
    rw [hds, List.length_cons] at hfuel
    exact ⟨fuel - 1, by omega⟩
  match j with
  | .null => rfl
  | .bool true => rfl
  | .bool false => rfl
  | .number n =>
    rw [chars]
    exact value_number n fuel hrest
  | .string none => cases hj
  | .string (some s) =>
    rw [chars]
    exact value_stringChars s fuel rest
  | .array [] => rfl
  | .array (v :: vs) =>
    have hlen : (elementChars (v :: vs)).length ≤ fuel := by
      rw [chars, List.length_cons] at hfuel
      omega
    have helements := elements_chars v vs (by simpa [isSound] using hj) fuel hlen rest
    obtain ⟨c, cs, hcs, hc⟩ := exists_elementChars_eq_cons v vs
    rw [hcs, List.map_cons, List.cons_append] at helements
    rw [chars, hcs, List.map_cons, List.map_cons, List.cons_append, List.cons_append, value]
    simp only [skipBlank_of_opens (by decide : Opens '['), skipBlank_of_opens hc]
    -- An element does not begin with the closing bracket.
    split
    · rename_i heq
      exact absurd (Option.some.inj (List.cons.inj heq).1) hc.2.2.2.2
    · rw [helements]
      rfl
  | .object [] => rfl
  | .object (m :: ms) =>
    have hlen : (memberChars (m :: ms)).length ≤ fuel := by
      rw [chars, List.length_cons] at hfuel
      omega
    have hmembers := members_chars m ms (by simpa [isSound] using hj) fuel hlen rest
    obtain ⟨cs, hcs⟩ := exists_memberChars_eq_cons m ms
    rw [hcs, List.map_cons, List.cons_append] at hmembers
    rw [chars, hcs, List.map_cons, List.map_cons, List.cons_append, List.cons_append, value]
    simp only [skipBlank_of_opens (by decide : Opens '\x7b'),
      skipBlank_of_opens (by decide : Opens '"')]
    show (members fuel _).map _ = _
    rw [hmembers]
    rfl
termination_by fuel

/-- Written elements are read back with their closing bracket. -/
theorem elements_chars (v : Json) (vs : List Json) (hvs : areSound (v :: vs) = true) (fuel : Nat)
    (hfuel : (elementChars (v :: vs)).length ≤ fuel) (rest : Input) :
    elements fuel ((elementChars (v :: vs)).map some ++ rest) = some (v :: vs, rest) := by
  obtain ⟨d, ds, hds, -⟩ := exists_elementChars_eq_cons v vs
  obtain ⟨fuel, rfl⟩ : ∃ n, fuel = n + 1 := by
    rw [hds, List.length_cons] at hfuel
    exact ⟨fuel - 1, by omega⟩
  rw [areSound, Bool.and_eq_true] at hvs
  match vs with
  | [] =>
    rw [elementChars, List.length_append, List.length_singleton] at hfuel
    have hv := value_chars v hvs.1 fuel (by omega) (some ']' :: rest)
      (endsNumber_cons (by decide) rest)
    rw [elementChars, List.map_append, List.append_assoc, List.map_singleton,
      List.singleton_append, elements, hv]
    rfl
  | w :: ws =>
    rw [elementChars_cons_cons, List.length_append, List.length_cons] at hfuel
    have hv := value_chars v hvs.1 fuel (by omega)
      (some ',' :: ((elementChars (w :: ws)).map some ++ rest)) (endsNumber_cons (by decide) _)
    have hws := elements_chars w ws hvs.2 fuel (by omega) rest
    rw [elementChars_cons_cons, List.map_append, List.append_assoc, List.map_cons, List.cons_append,
      elements, hv]
    simp only [bind, Option.bind, skipBlank_of_opens (by decide : Opens ','), hws]
termination_by fuel

/-- Written members are read back with their closing brace. -/
theorem members_chars (m : Option String × Json) (ms : List (Option String × Json))
    (hms : areSoundMembers (m :: ms) = true) (fuel : Nat)
    (hfuel : (memberChars (m :: ms)).length ≤ fuel) (rest : Input) :
    members fuel ((memberChars (m :: ms)).map some ++ rest) = some (m :: ms, rest) := by
  obtain ⟨ds, hds⟩ := exists_memberChars_eq_cons m ms
  obtain ⟨fuel, rfl⟩ : ∃ n, fuel = n + 1 := by
    rw [hds, List.length_cons] at hfuel
    exact ⟨fuel - 1, by omega⟩
  obtain ⟨k, v⟩ := m
  rw [areSoundMembers, Bool.and_eq_true, Bool.and_eq_true] at hms
  obtain ⟨⟨hk, hv⟩, hms⟩ := hms
  obtain ⟨k, rfl⟩ := Option.isSome_iff_exists.1 hk
  match ms with
  | [] =>
    rw [memberChars, List.length_append, List.length_cons, List.length_append,
      List.length_singleton] at hfuel
    have hvalue := value_chars v hv fuel (by omega) (some '\x7d' :: rest)
      (endsNumber_cons (by decide) rest)
    have hmember := members_member k hvalue
    rw [membersAfter, skipBlank_of_opens (by decide)] at hmember
    rw [memberChars]
    simpa [List.append_assoc] using hmember
  | n :: ns =>
    rw [memberChars_cons_cons, List.length_append, List.length_cons, List.length_append,
      List.length_cons] at hfuel
    have hvalue := value_chars v hv fuel (by omega)
      (some ',' :: ((memberChars (n :: ns)).map some ++ rest)) (endsNumber_cons (by decide) _)
    have hns := members_chars n ns hms fuel (by omega) rest
    have hmember := members_member k hvalue
    rw [membersAfter, skipBlank_of_opens (by decide)] at hmember
    rw [memberChars_cons_cons]
    simpa [List.append_assoc, hns] using hmember
termination_by fuel

end

end Reader

/-! ## Documents -/

theorem document_chars {j : Json} (hj : isSound j = true) :
    Reader.document ((chars j).map some) = some j := by
  have hread := Reader.value_chars j hj (2 * ((chars j).map some).length + 2)
    (by rw [List.length_map]; omega) [] (by rintro c ⟨⟩)
  rw [List.append_nil] at hread
  rw [Reader.document, hread]
  rfl

/-- A sound value is read back from its text. -/
theorem parse?_render {j : Json} (hj : isSound j = true) : parse? j.render = some j := by
  rw [parse?, render, String.toList_ofList, document_chars hj]

/-- A sound value is read back from the bytes of its text. -/
theorem ofBytes?_encode_render {j : Json} (hj : isSound j = true) :
    ofBytes? (Utf8.encode j.render) = some j := by
  rw [ofBytes?, Utf8.decode_encode, render, String.toList_ofList, document_chars hj]

end Gatehouse.Json
