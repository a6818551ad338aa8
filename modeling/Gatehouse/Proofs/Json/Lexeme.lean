import Gatehouse.Json.Printer
import Gatehouse.Json.Reader
import Mathlib.Tactic.SplitIfs

/-!
# Written strings and numbers

A string is read back from its written form, whatever characters it holds, and what follows its
closing quote is left. A number is read back from its written form where it ends, which is before a
comma, a closing bracket or the end of the input.
-/

namespace Gatehouse.Json.Reader

/-! ## Strings -/

/-- The piece that the written form of a character is read as. -/
def pieceOf (c : Char) : Piece :=
  if c.toNat < 0x20 ∧ c ≠ '\x08' ∧ c ≠ '\x0c' ∧ c ≠ '\n' ∧ c ≠ '\r' ∧ c ≠ '\t' then .unit c.toNat
  else .char c

theorem hexValue?_hexChar {n : Nat} (h : n < 16) : hexValue? (some (hexChar n)) = some n := by
  revert n
  decide

/-- A piece in front of what the rest of a string is read as. -/
def consPiece (p : Piece) (r : List Piece × Input) : List Piece × Input := (p :: r.1, r.2)

theorem pieces_short {e c : Char} (h : escaped? e = some c) (rest : Input) :
    pieces (some '\\' :: some e :: rest) = (pieces rest).map (consPiece (.char c)) := by
  have hu : e ≠ 'u' := by
    rintro rfl
    cases h
  rw [pieces]
  · rw [h]
    cases pieces rest <;> rfl
  · intros
    exact absurd ‹e = 'u'› hu

theorem pieces_unit {a b c d : Char} {m n o p : Nat} (ha : hexValue? (some a) = some m)
    (hb : hexValue? (some b) = some n) (hc : hexValue? (some c) = some o)
    (hd : hexValue? (some d) = some p) (rest : Input) :
    pieces (some '\\' :: some 'u' :: some a :: some b :: some c :: some d :: rest) =
      (pieces rest).map (consPiece (.unit (((m * 16 + n) * 16 + o) * 16 + p))) := by
  rw [pieces, ha, hb, hc, hd]
  cases pieces rest <;> rfl

theorem pieces_plain {c : Char} (hquote : c ≠ '"') (hslash : c ≠ '\\') (hlow : ¬c.toNat < 0x20)
    (rest : Input) : pieces (some c :: rest) = (pieces rest).map (consPiece (.char c)) := by
  rw [pieces]
  · rw [if_neg hlow]
    rfl
  · exact hquote
  · intros
    exact absurd ‹c = '\\'› hslash
  · intros
    exact absurd ‹c = '\\'› hslash
  · exact hslash

/-- The written form of a character is read as one piece. -/
theorem pieces_escapedChar (c : Char) (rest : Input) :
    pieces ((escapedChar c).map some ++ rest) = (pieces rest).map (consPiece (pieceOf c)) := by
  unfold escapedChar
  split_ifs with hquote hslash hb hf hn hr ht hlow
  · subst hquote
    exact pieces_short rfl rest
  · subst hslash
    exact pieces_short rfl rest
  · subst hb
    exact pieces_short rfl rest
  · subst hf
    exact pieces_short rfl rest
  · subst hn
    exact pieces_short rfl rest
  · subst hr
    exact pieces_short rfl rest
  · subst ht
    exact pieces_short rfl rest
  · -- A control character without a short form is written with four hexadecimal digits.
    have hhigh : hexValue? (some (hexChar (c.toNat / 16))) = some (c.toNat / 16) :=
      hexValue?_hexChar (by omega)
    have hunit : hexValue? (some (hexChar (c.toNat % 16))) = some (c.toNat % 16) :=
      hexValue?_hexChar (by omega)
    have hzero : hexValue? (some '0') = some 0 := rfl
    have hval : ((0 * 16 + 0) * 16 + c.toNat / 16) * 16 + c.toNat % 16 = c.toNat := by omega
    have hpiece : pieceOf c = .unit c.toNat := by
      rw [pieceOf, if_pos ⟨hlow, hb, hf, hn, hr, ht⟩]
    have hread := pieces_unit hzero hzero hhigh hunit rest
    rwa [hval, ← hpiece] at hread
  · have hpiece : pieceOf c = .char c := by
      rw [pieceOf, if_neg fun h => hlow h.1]
    rw [hpiece]
    exact pieces_plain hquote hslash hlow rest

theorem pieces_escaped (cs : List Char) (rest : Input) :
    pieces ((cs.flatMap escapedChar ++ ['"']).map some ++ rest) =
      some (cs.map pieceOf, rest) := by
  induction cs with
  | nil => rfl
  | cons c cs ih =>
    rw [List.flatMap_cons, List.append_assoc, List.map_append, List.append_assoc,
      pieces_escapedChar, ih]
    rfl

/-- No piece of a written form is half of a pair of surrogates. -/
theorem textOf_cons_pieceOf (c : Char) (ps : List Piece) :
    textOf (pieceOf c :: ps) = (textOf ps).map (c :: ·) := by
  unfold pieceOf
  split
  · rename_i hlow
    have hsmall : c.toNat < 0x20 := hlow.1
    have hsurrogate : ¬(0xD800 ≤ c.toNat ∧ c.toNat < 0xDC00) := by omega
    have hpartner : ¬(0xDC00 ≤ c.toNat ∧ c.toNat < 0xE000) := by omega
    have hlone : ¬(0xD800 ≤ c.toNat ∧ c.toNat < 0xE000) := by omega
    cases ps with
    | nil => simp only [textOf, if_neg hlone, Char.ofNat_toNat]
    | cons p ps =>
      cases p with
      | unit n => rw [textOf, if_neg hsurrogate, if_neg hpartner, Char.ofNat_toNat]
      | char d => simp only [textOf, if_neg hlone, Char.ofNat_toNat]
      | stray => simp only [textOf, if_neg hlone, Char.ofNat_toNat]
  · rfl

theorem textOf_map_pieceOf (cs : List Char) : textOf (cs.map pieceOf) = some cs := by
  induction cs with
  | nil => rfl
  | cons c cs ih => rw [List.map_cons, textOf_cons_pieceOf, ih, Option.map_some]

/-- A written string is read back after its opening quote, and what follows it is left. -/
theorem stringBody_escaped (s : String) (rest : Input) :
    stringBody ((s.toList.flatMap escapedChar ++ ['"']).map some ++ rest) =
      some (some s, rest) := by
  rw [stringBody, pieces_escaped, Option.map_some, textOf_map_pieceOf, Option.map_some,
    String.ofList_toList]

/-! ## Numbers -/

/-- What follows does not go on with a number. -/
def EndsNumber (rest : Input) : Prop :=
  ∀ c ∈ rest.head?, c = some ',' ∨ c = some ']' ∨ c = some '\x7d'

/-- What follows does not go on with digits. -/
def EndsDigits (rest : Input) : Prop :=
  ∀ c ∈ rest.head?, digit? c = none

theorem EndsNumber.endsDigits {rest : Input} (h : EndsNumber rest) : EndsDigits rest := by
  intro c hc
  rcases h c hc with rfl | rfl | rfl <;> rfl

/-- The value of a decimal digit's character. -/
def digitOf (c : Char) : Nat := c.toNat - 48

theorem digit?_eq {c : Char} (h : c.isDigit = true) : digit? (some c) = some (digitOf c) := by
  have hrange : '0' ≤ c ∧ c ≤ '9' := by
    simpa [Char.isDigit, Char.le_def, UInt32.le_iff_toNat_le] using h
  rw [digit?, if_pos hrange, digitOf]

theorem digits_append {cs : List Char} {rest : Input} (hcs : ∀ c ∈ cs, c.isDigit = true)
    (hrest : EndsDigits rest) : digits (cs.map some ++ rest) = (cs.map digitOf, rest) := by
  induction cs with
  | nil =>
    cases rest with
    | nil => rfl
    | cons c rest =>
      have hend : digit? c = none := hrest c rfl
      rw [List.map_nil, List.nil_append, digits, hend]
      rfl
  | cons c cs ih =>
    rw [List.forall_mem_cons] at hcs
    rw [List.map_cons, List.cons_append, digits, digit?_eq hcs.1, ih hcs.2]
    rfl

theorem decimalValue_map_digitOf (cs : List Char) :
    decimalValue (cs.map digitOf) = Nat.ofDigitChars 10 cs 0 := by
  rw [decimalValue, Nat.ofDigitChars_eq_foldl, List.foldl_map]
  congr 1
  funext n c
  rw [Nat.mul_comm]
  rfl

/-- The digits that write a number, most significant first. -/
def decimals (n : Nat) : List Nat := (Nat.toDigits 10 n).map digitOf

theorem decimalValue_decimals (n : Nat) : decimalValue (decimals n) = n := by
  rw [decimals, decimalValue_map_digitOf, Nat.ofDigitChars_ten_toDigits]

theorem digits_toDigits (n : Nat) {rest : Input} (hrest : EndsDigits rest) :
    digits ((Nat.toDigits 10 n).map some ++ rest) = (decimals n, rest) :=
  digits_append (fun _ hc => Nat.isDigit_of_mem_toDigits (by decide) (by decide) hc) hrest

theorem decimals_ne_nil (n : Nat) : decimals n ≠ [] := by
  rw [decimals, Ne, List.map_eq_nil_iff]
  exact Nat.toDigits_ne_nil

theorem decimals_of_lt {n : Nat} (h : n < 10) : decimals n = [n] := by
  revert n
  decide

theorem decimals_of_le {n : Nat} (h : 10 ≤ n) : ∃ d, decimals n = decimals (n / 10) ++ [d] := by
  rw [decimals, Nat.toDigits_of_base_le (by decide) h, List.map_append]
  exact ⟨_, rfl⟩

/-- A number is written without leading zeros. -/
theorem decimals_eq_zero_cons {n : Nat} {ds : List Nat} (h : decimals n = 0 :: ds) : ds = [] := by
  -- By induction on the number without its last digit, whose first digit is the same.
  induction n using Nat.strongRecOn generalizing ds with
  | _ n ih =>
    by_cases hn : n < 10
    · rw [decimals_of_lt hn, List.cons.injEq] at h
      exact h.2.symm
    · obtain ⟨d, hd⟩ := decimals_of_le (Nat.le_of_not_lt hn)
      obtain ⟨e, es, hes⟩ := List.exists_cons_of_ne_nil (decimals_ne_nil (n / 10))
      rw [hd, hes, List.cons_append, List.cons.injEq] at h
      obtain ⟨rfl, -⟩ := h
      have hnil : es = [] := ih (n / 10) (by omega) hes
      have hzero : n / 10 = 0 := by
        rw [← decimalValue_decimals (n / 10), hes, hnil]
        rfl
      omega

theorem wholePart_toDigits (n : Nat) {rest : Input} (hrest : EndsDigits rest) :
    wholePart ((Nat.toDigits 10 n).map some ++ rest) = some (decimals n, rest) := by
  rw [wholePart, digits_toDigits n hrest]
  obtain ⟨d, ds, hds⟩ := List.exists_cons_of_ne_nil (decimals_ne_nil n)
  rw [hds]
  cases ds with
  | nil => cases d <;> rfl
  | cons e ds =>
    cases d with
    | zero => exact absurd (decimals_eq_zero_cons hds) (List.cons_ne_nil e ds)
    | succ d => rfl

theorem fractionPart_of_ends {rest : Input} (h : rest.head? ≠ some (some '.')) :
    fractionPart rest = some (none, rest) := by
  unfold fractionPart
  split
  · exact absurd rfl h
  · rfl

theorem exponentPart_of_ends {rest : Input} (h : EndsNumber rest) :
    exponentPart rest = some (none, rest) := by
  unfold exponentPart
  split
  · rename_i e s rest
    have he : ¬(e = 'e' ∨ e = 'E') := by
      rintro (rfl | rfl) <;> simp [EndsNumber] at h
    rw [if_neg he]
  · rename_i e rest _
    have he : ¬(e = 'e' ∨ e = 'E') := by
      rintro (rfl | rfl) <;> simp [EndsNumber] at h
    rw [if_neg he]
  · rfl

theorem exponentDigits_toDigits (negative : Bool) (n : Nat) {rest : Input}
    (hrest : EndsDigits rest) :
    exponentDigits negative ((Nat.toDigits 10 n).map some ++ rest) =
      some (some (if negative then -(n : Int) else n), rest) := by
  rw [exponentDigits, digits_toDigits n hrest]
  obtain ⟨d, ds, hds⟩ := List.exists_cons_of_ne_nil (decimals_ne_nil n)
  have hvalue : decimalValue (d :: ds) = n := by
    rw [← hds, decimalValue_decimals]
  rw [hds]
  simp only [hvalue]

theorem toList_toString_ofNat (n : Nat) : (toString (n : Int)).toList = Nat.toDigits 10 n :=
  Nat.toList_repr

theorem toList_toString_negSucc (n : Nat) :
    (toString (Int.negSucc n)).toList = '-' :: Nat.toDigits 10 (n + 1) := by
  show ("-" ++ Nat.repr (n + 1)).toList = _
  rw [String.toList_append, Nat.toList_repr]
  rfl

/-- The first character of a written number is one of the ten digits. -/
theorem exists_toDigits_eq_cons (n : Nat) :
    ∃ c cs, Nat.toDigits 10 n = c :: cs ∧ c.isDigit = true := by
  obtain ⟨c, cs, hcs⟩ := List.exists_cons_of_ne_nil (Nat.toDigits_ne_nil (n := n) (b := 10))
  refine ⟨c, cs, hcs, Nat.isDigit_of_mem_toDigits (b := 10) (n := n) (by decide) (by decide) ?_⟩
  rw [hcs]
  exact List.mem_cons_self

theorem exponentPart_toString (n : Int) {rest : Input} (hrest : EndsDigits rest) :
    exponentPart (('e' :: (toString n).toList).map some ++ rest) = some (some n, rest) := by
  cases n with
  | ofNat n =>
    obtain ⟨c, cs, hcs, hc⟩ := exists_toDigits_eq_cons n
    have hminus : c ≠ '-' := by
      rintro rfl
      cases hc
    have hplus : c ≠ '+' := by
      rintro rfl
      cases hc
    have hread := exponentDigits_toDigits false n hrest
    rw [hcs] at hread
    rw [Int.ofNat_eq_natCast, toList_toString_ofNat, hcs]
    simpa [exponentPart, hminus, hplus] using hread
  | negSucc n =>
    have hread := exponentDigits_toDigits true (n + 1) hrest
    rw [toList_toString_negSucc]
    simpa [exponentPart, Int.negSucc_eq] using hread

theorem unsigned_integer (negative : Bool) (n : Nat) {rest : Input} (hrest : EndsNumber rest) :
    unsigned negative ((Nat.toDigits 10 n).map some ++ rest) =
      some
        (if negative then if n = 0 then .minusZero else .integer (-n) else .integer n, rest) := by
  have hdot : rest.head? ≠ some (some '.') := by
    intro hdot
    simpa using hrest _ hdot
  rw [unsigned, wholePart_toDigits n hrest.endsDigits]
  simp only [bind, Option.bind, fractionPart_of_ends hdot, exponentPart_of_ends hrest,
    decimalValue_decimals]
  cases negative <;> rfl

theorem unsigned_decimal (negative : Bool) (n : Nat) (e : Int) {rest : Input}
    (hrest : EndsNumber rest) :
    unsigned negative
        ((Nat.toDigits 10 n ++ 'e' :: (toString e).toList).map some ++ rest) =
      some (.decimal negative n e, rest) := by
  have hends : EndsDigits (('e' :: (toString e).toList).map some ++ rest) := by
    intro c hc
    obtain rfl : some 'e' = c := by simpa using hc
    rfl
  have hdot : (('e' :: (toString e).toList).map some ++ rest).head? ≠ some (some '.') := by
    simp
  rw [List.map_append, List.append_assoc, unsigned, wholePart_toDigits n hends]
  simp only [bind, Option.bind, fractionPart_of_ends hdot,
    exponentPart_toString e hrest.endsDigits, Option.getD_none, Option.getD_some,
    List.append_nil, decimalValue_decimals]
  simp

/-- A written number is read back, up to where it ends. -/
theorem number_numeralChars (n : Numeral) {rest : Input} (hrest : EndsNumber rest) :
    number ((numeralChars n).map some ++ rest) = some (n, rest) := by
  -- What begins with a digit has no sign.
  have hunsigned : ∀ (m : Nat) (more : Input), number ((Nat.toDigits 10 m).map some ++ more) =
      unsigned false ((Nat.toDigits 10 m).map some ++ more) := by
    intro m more
    obtain ⟨c, cs, hcs, hc⟩ := exists_toDigits_eq_cons m
    have hminus : c ≠ '-' := by
      rintro rfl
      cases hc
    rw [hcs, number]
    intro _ hsign
    exact hminus (Option.some.inj (List.cons.inj hsign).1)
  have hdigits : ∀ m : Nat, (toString m).toList = Nat.toDigits 10 m := fun m => Nat.toList_repr
  cases n with
  | integer n =>
    cases n with
    | ofNat n =>
      rw [numeralChars, Int.ofNat_eq_natCast, toList_toString_ofNat, hunsigned,
        unsigned_integer false n hrest]
      rfl
    | negSucc n =>
      rw [numeralChars, toList_toString_negSucc, List.map_cons, List.cons_append, number,
        unsigned_integer true (n + 1) hrest]
      rfl
  | minusZero => exact unsigned_integer true 0 hrest
  | decimal negative n e =>
    have hdecimal := unsigned_decimal negative n e hrest
    cases negative with
    | true =>
      rw [numeralChars, if_pos rfl, hdigits]
      exact hdecimal
    | false =>
      rw [numeralChars, if_neg Bool.false_ne_true, List.nil_append, hdigits, List.map_append,
        List.append_assoc]
      rw [List.map_append, List.append_assoc] at hdecimal
      exact (hunsigned n _).trans hdecimal

end Gatehouse.Json.Reader
