import Gatehouse.Auth.Cookie
import Gatehouse.Proofs.Utf8
import Mathlib.Data.List.TakeWhile

/-!
# What cookie headers say

The value under a name is that of the last pair which gives one, in the order of the headers and
then of the pairs in a header. A pair gives a value if it is a text with an equals sign and has the
name in front of the first one. So it does not matter how the pairs are spread over headers, nor
what other pairs stand between them.
-/

namespace Gatehouse

/-! ## White space -/

namespace Text

/-- A text is what is left of another without the white space around it. -/
structure Trims (cs t : List Char) : Prop where
  surrounded : ∃ before after, cs = before ++ t ++ after ∧ (∀ c ∈ before, isBlank c = true) ∧
    ∀ c ∈ after, isBlank c = true
  head : ∀ c, t.head? = some c → isBlank c = false
  last : ∀ c, t.getLast? = some c → isBlank c = false

/-- Without the white space in front of it a text begins with another character, or is empty. -/
theorem isBlank_of_head?_dropWhile {cs : List Char} {c : Char}
    (h : (cs.dropWhile isBlank).head? = some c) : isBlank c = false := by
  have hhead := List.head?_dropWhile_not isBlank cs
  rw [h] at hhead
  simpa using hhead

/-- A text that does not begin with white space stays behind white space. -/
theorem dropWhile_isBlank_append {before t : List Char} (hbefore : ∀ c ∈ before, isBlank c = true)
    (hhead : ∀ c, t.head? = some c → isBlank c = false) :
    (before ++ t).dropWhile isBlank = t := by
  rw [List.dropWhile_append_of_pos hbefore]
  cases t with
  | nil => rfl
  | cons c cs => rw [List.dropWhile_cons_of_neg (by simp [hhead c rfl])]

theorem trimChars_of_trims {cs t : List Char} (h : Trims cs t) : trimChars cs = t := by
  obtain ⟨before, after, rfl, hbefore, hafter⟩ := h.surrounded
  have hlast : ∀ c, t.reverse.head? = some c → isBlank c = false := by
    rw [List.head?_reverse]
    exact h.last
  have hback : (after.reverse ++ t.reverse).dropWhile isBlank = t.reverse :=
    dropWhile_isBlank_append (fun c hc => hafter c (List.mem_reverse.1 hc)) hlast
  rw [trimChars, List.append_assoc]
  cases t with
  | nil =>
    -- All of it is white space, and goes from the front.
    have hall : ∀ c ∈ before ++ after, isBlank c = true := by
      intro c hc
      rcases List.mem_append.1 hc with hc | hc
      · exact hbefore c hc
      · exact hafter c hc
    rw [List.nil_append, List.dropWhile_eq_nil_iff.2 hall]
    rfl
  | cons c cs =>
    have hfront : (before ++ (c :: cs ++ after)).dropWhile isBlank = c :: cs ++ after :=
      dropWhile_isBlank_append hbefore h.head
    rw [hfront, List.reverse_append, hback, List.reverse_reverse]

theorem trims_trimChars (cs : List Char) : Trims cs (trimChars cs) := by
  have hfront := List.takeWhile_append_dropWhile (p := isBlank) (l := cs)
  have hback := List.takeWhile_append_dropWhile (p := isBlank) (l := (cs.dropWhile isBlank).reverse)
  have hsplit : cs.dropWhile isBlank =
      trimChars cs ++ ((cs.dropWhile isBlank).reverse.takeWhile isBlank).reverse := by
    rw [trimChars, ← List.reverse_append, hback, List.reverse_reverse]
  constructor
  · refine ⟨cs.takeWhile isBlank, ((cs.dropWhile isBlank).reverse.takeWhile isBlank).reverse,
      ?_, ?_, ?_⟩
    · rw [List.append_assoc, ← hsplit, hfront]
    · exact fun c hc => List.mem_takeWhile_imp hc
    · exact fun c hc => List.mem_takeWhile_imp (List.mem_reverse.1 hc)
  · intro c hc
    have hhead : (cs.dropWhile isBlank).head? = some c := by
      rw [hsplit, List.head?_append, hc, Option.some_or]
    exact isBlank_of_head?_dropWhile hhead
  · intro c hc
    rw [trimChars, List.getLast?_reverse] at hc
    exact isBlank_of_head?_dropWhile hc

theorem trimChars_eq_iff {cs t : List Char} : trimChars cs = t ↔ Trims cs t :=
  ⟨fun h => h ▸ trims_trimChars cs, trimChars_of_trims⟩

/-- A blank in front of a text makes no difference to what is left of it. -/
theorem trimChars_cons_of_isBlank {c : Char} (h : isBlank c = true) (cs : List Char) :
    trimChars (c :: cs) = trimChars cs := by
  rw [trimChars, trimChars, List.dropWhile_cons_of_pos h]

end Text

namespace Cookie

/-! ## Pairs in headers -/

/-- The header that has some pairs, with a semicolon between any two. -/
def join (ps : List Bytes) : Bytes :=
  [0x3b].intercalate ps

/-- A header has these pairs and no others, in this order. -/
structure Splits (header : Bytes) (ps : List Bytes) : Prop where
  joined : header = join ps
  apart : ∀ p ∈ ps, (0x3b : UInt8) ∉ p
  ne_nil : ps ≠ []

theorem pairs_eq_splitOn (header : Bytes) : pairs header = header.splitOn 0x3b := by
  induction header with
  | nil => rfl
  | cons b rest ih =>
    rw [pairs, ih, List.splitOn, List.splitOn, List.splitOnP_cons_eq_if_modifyHead]
    cases hrest : rest.splitOnP (· == 0x3b) with
    | nil => exact absurd hrest (List.splitOnP_ne_nil _ _)
    | cons p ps =>
      by_cases hb : b = 0x3b
      · simp [hb]
      · simp [hb]

theorem pairs_ne_nil (header : Bytes) : pairs header ≠ [] := by
  rw [pairs_eq_splitOn]
  exact List.splitOn_ne_nil _ _

/-- No pair holds a semicolon. -/
theorem semicolon_not_mem {header p : Bytes} (h : p ∈ pairs header) : (0x3b : UInt8) ∉ p := by
  induction header generalizing p with
  | nil =>
    rw [pairs, List.mem_singleton] at h
    rw [h]
    exact List.not_mem_nil
  | cons b rest ih =>
    rw [pairs] at h
    cases hrest : pairs rest with
    | nil => exact absurd hrest (pairs_ne_nil rest)
    | cons q qs =>
      rw [hrest] at h ih
      dsimp only at h
      split at h
      · rcases List.mem_cons.1 h with rfl | h
        · exact List.not_mem_nil
        · exact ih h
      · rename_i hb
        -- The first pair of the rest gets one more byte, which is no semicolon.
        rcases List.mem_cons.1 h with rfl | h
        · rw [List.mem_cons]
          exact not_or.2 ⟨fun heq => hb heq.symm, ih List.mem_cons_self⟩
        · exact ih (List.mem_cons_of_mem _ h)

theorem splits_iff {header : Bytes} {ps : List Bytes} : Splits header ps ↔ ps = pairs header := by
  constructor
  · intro h
    rw [pairs_eq_splitOn, h.joined, join, List.splitOn_intercalate _ h.apart h.ne_nil]
  · rintro rfl
    constructor
    · rw [pairs_eq_splitOn, join, List.intercalate_splitOn]
    · exact fun p hp => semicolon_not_mem hp
    · exact pairs_ne_nil header

/-- Headers with a semicolon between them have the pairs of the one and then those of the other. -/
theorem pairs_append (header other : Bytes) :
    pairs (header ++ 0x3b :: other) = pairs header ++ pairs other := by
  simp only [pairs_eq_splitOn, List.splitOn_append_cons_self]

/-- The pairs of all headers, in the order of the headers. -/
def AllPairs (headers : List Bytes) (ps : List Bytes) : Prop :=
  ∃ pss, List.Forall₂ Splits headers pss ∧ ps = pss.flatten

theorem allPairs_iff {headers ps : List Bytes} :
    AllPairs headers ps ↔ ps = headers.flatMap pairs := by
  have hsplits : Splits = fun header ps => pairs header = ps := by
    funext header ps
    exact propext (splits_iff.trans eq_comm)
  have hall : ∀ pss, List.Forall₂ Splits headers pss ↔ pss = headers.map pairs := by
    intro pss
    rw [hsplits, ← List.forall₂_map_left_iff (f := pairs), List.forall₂_eq_eq_eq, eq_comm]
  rw [AllPairs, List.flatMap_def]
  simp only [hall, exists_eq_left]

/-! ## Values in pairs -/

/-- A text with double quotes at both ends is unquoted to what is between them, and any other to
itself. -/
def Unquotes (cs v : List Char) : Prop :=
  cs = '"' :: (v ++ ['"']) ∨ v = cs ∧ ∀ u, cs ≠ '"' :: (u ++ ['"'])

theorem unquoted_eq_iff {cs v : List Char} : unquoted cs = v ↔ Unquotes cs v := by
  rw [unquoted.eq_def, Unquotes]
  split
  · rename_i rest
    cases hlast : rest.getLast? with
    | none =>
      -- A quote that stands alone is at one end only.
      obtain rfl := List.getLast?_eq_none_iff.1 hlast
      have hlone : ∀ u, ['"'] ≠ '"' :: (u ++ ['"']) := by simp
      simp only [reduceCtorEq, if_false, hlone, not_false_eq_true, implies_true, and_true, false_or,
        ne_eq]
      exact eq_comm
    | some c =>
      obtain ⟨u, rfl⟩ := List.getLast?_eq_some_iff.1 hlast
      by_cases hc : c = '"'
      · subst hc
        simp
      · have hquote : ∀ x, u ++ [c] ≠ x ++ ['"'] := by
          intro x hx
          exact hc (List.cons.inj (List.append_inj' hx rfl).2).1
        simp [hc, hquote, eq_comm]
  · rename_i hplain
    constructor
    · rintro rfl
      exact .inr ⟨rfl, fun u hu => hplain _ hu⟩
    · rintro (h | ⟨rfl, -⟩)
      · exact absurd h (hplain _)
      · rfl

/-- A pair gives a name a value: it is a text with an equals sign, the name stands in front of the
first one, and the value behind it. White space around either does not count, nor does one pair of
double quotes around the value. -/
def Gives (pair : Bytes) (name value : String) : Prop :=
  ∃ key text trimmed, pair = Utf8.encode (.ofList (key ++ '=' :: text)) ∧ '=' ∉ key ∧
    Text.Trims key name.toList ∧ Text.Trims text trimmed ∧ Unquotes trimmed value.toList

/-- A text is cut at the first equals sign. -/
theorem cut_iff {cs key text : List Char} : cs.takeWhile (· != '=') = key ∧
    cs.dropWhile (· != '=') = '=' :: text ↔ cs = key ++ '=' :: text ∧ '=' ∉ key := by
  constructor
  · rintro ⟨rfl, hdrop⟩
    constructor
    · rw [← hdrop, List.takeWhile_append_dropWhile]
    · intro h
      simpa using List.mem_takeWhile_imp h
  · rintro ⟨rfl, hkey⟩
    have hother : ∀ c ∈ key, (c != '=') = true := by
      intro c hc
      rw [bne_iff_ne]
      rintro rfl
      exact hkey hc
    rw [List.takeWhile_append_of_pos hother, List.dropWhile_append_of_pos hother]
    simp

/-- A pair is cut in one way only. -/
theorem key_unique {key text key' text' : List Char} (hkey : '=' ∉ key) (hkey' : '=' ∉ key')
    (h : Utf8.encode (.ofList (key ++ '=' :: text)) =
      Utf8.encode (.ofList (key' ++ '=' :: text'))) : key = key' := by
  have hchars := String.ofList_injective (Utf8.encode_injective h)
  exact (cut_iff.2 ⟨rfl, hkey⟩).1.symm.trans (cut_iff.2 ⟨hchars, hkey'⟩).1

/-- A pair has one name only. -/
theorem Gives.name_unique {pair : Bytes} {name name' value value' : String}
    (h : Gives pair name value) (h' : Gives pair name' value') : name = name' := by
  obtain ⟨key, text, -, hpair, hkey, hname, -⟩ := h
  obtain ⟨key', text', -, hpair', hkey', hname', -⟩ := h'
  obtain rfl := key_unique hkey hkey' (hpair.symm.trans hpair')
  exact String.toList_inj.1
    ((Text.trimChars_of_trims hname).symm.trans (Text.trimChars_of_trims hname'))

theorem valueOf?_eq_some_iff {name cs v : List Char} : valueOf? name cs = some v ↔
    ∃ key text, (cs = key ++ '=' :: text ∧ '=' ∉ key) ∧ Text.trimChars key = name ∧
      unquoted (Text.trimChars text) = v := by
  rw [valueOf?]
  constructor
  · intro h
    cases hdrop : cs.dropWhile (· != '=') with
    | nil =>
      rw [hdrop] at h
      cases h
    | cons c text =>
      have hc : c = '=' := by
        have hhead := List.head?_dropWhile_not (· != '=') cs
        rw [hdrop] at hhead
        simpa using hhead
      subst hc
      rw [hdrop] at h
      dsimp only at h
      split at h
      · rename_i hname
        exact ⟨_, text, cut_iff.1 ⟨rfl, hdrop⟩, hname, Option.some.inj h⟩
      · cases h
  · rintro ⟨key, text, hcut, rfl, rfl⟩
    obtain ⟨htake, hdrop⟩ := cut_iff.2 hcut
    rw [hdrop, htake]
    exact if_pos rfl

/-- What is found in a pair is what the pair gives. -/
theorem value?_eq_some_iff {name value : String} {pair : Bytes} :
    value? name pair = some value ↔ Gives pair name value := by
  rw [value?, Gives]
  constructor
  · intro h
    obtain ⟨s, hs, h⟩ := Option.bind_eq_some_iff.1 h
    obtain ⟨v, hv, rfl⟩ := Option.map_eq_some_iff.1 h
    obtain ⟨key, text, ⟨hcut, hkey⟩, hname, hvalue⟩ := valueOf?_eq_some_iff.1 hv
    refine ⟨key, text, _, ?_, hkey, Text.trimChars_eq_iff.1 hname, Text.trims_trimChars text, ?_⟩
    · rw [← hcut, String.ofList_toList]
      exact Utf8.text?_eq_some_iff.1 hs
    · rw [String.toList_ofList]
      exact unquoted_eq_iff.1 hvalue
  · rintro ⟨key, text, trimmed, rfl, hkey, hname, htext, hvalue⟩
    have hv : valueOf? name.toList (key ++ '=' :: text) = some value.toList := by
      refine valueOf?_eq_some_iff.2 ⟨key, text, ⟨rfl, hkey⟩, Text.trimChars_eq_iff.2 hname, ?_⟩
      rw [Text.trimChars_eq_iff.2 htext]
      exact unquoted_eq_iff.2 hvalue
    rw [Utf8.text?_encode, Option.bind_some, String.toList_ofList, hv, Option.map_some,
      String.ofList_toList]

theorem value?_eq_none_iff {name : String} {pair : Bytes} :
    value? name pair = none ↔ ∀ value, ¬Gives pair name value := by
  rw [Option.eq_none_iff_forall_ne_some]
  exact forall_congr' fun value => not_congr value?_eq_some_iff

/-- A pair is passed over under a name: it is no text, or it has no equals sign or another name. -/
inductive PassedOver (name : String) (pair : Bytes) : Prop where
  | undecodable (h : ∀ s, pair ≠ Utf8.encode s)
  | malformed (cs : List Char) (hpair : pair = Utf8.encode (.ofList cs)) (h : '=' ∉ cs)
  | misnamed (key text : List Char) (hpair : pair = Utf8.encode (.ofList (key ++ '=' :: text)))
      (hkey : '=' ∉ key) (h : ¬Text.Trims key name.toList)

/-- The pairs that are passed over are those that give no value. -/
theorem passedOver_iff {name : String} {pair : Bytes} :
    PassedOver name pair ↔ ∀ value, ¬Gives pair name value := by
  constructor
  · rintro h value ⟨key, text, trimmed, hpair, hkey, hname, -⟩
    cases h with
    | undecodable h => exact h _ hpair
    | malformed cs hcs h =>
      have heq := String.ofList_injective (Utf8.encode_injective (hcs.symm.trans hpair))
      exact h (heq ▸ List.mem_append_right key List.mem_cons_self)
    | misnamed key' text' hpair' hkey' h =>
      obtain rfl := key_unique hkey' hkey (hpair'.symm.trans hpair)
      exact h hname
  · intro h
    -- A text with an equals sign gives a value under the name in front of it, so that is another.
    by_cases htext : ∃ s, pair = Utf8.encode s
    · obtain ⟨s, rfl⟩ := htext
      by_cases hcut : '=' ∈ s.toList
      · obtain ⟨key, text, hs, hkey⟩ := List.eq_append_cons_of_mem hcut
        have hpair : Utf8.encode s = Utf8.encode (.ofList (key ++ '=' :: text)) := by
          rw [← hs, String.ofList_toList]
        refine .misnamed key text hpair hkey fun hname => h _ ⟨key, text, _, hpair, hkey, hname,
          Text.trims_trimChars text, unquoted_eq_iff.1 (String.toList_ofList).symm⟩
      · exact .malformed s.toList (by rw [String.ofList_toList]) hcut
    · exact .undecodable fun s hs => htext ⟨s, hs⟩

/-- A pair says the same with a blank in front of it. -/
theorem value?_space (name : String) (p : Bytes) : value? name (0x20 :: p) = value? name p := by
  have hcut : ∀ cs, valueOf? name.toList (' ' :: cs) = valueOf? name.toList cs := by
    intro cs
    rw [valueOf?, valueOf?, List.takeWhile_cons_of_pos rfl, List.dropWhile_cons_of_pos rfl,
      Text.trimChars_cons_of_isBlank rfl]
  have hspace : Utf8.decode (0x20 :: p) = some ' ' :: Utf8.decode p :=
    Utf8.decode_cons rfl (by decide) p
  rw [value?, value?, Utf8.text?, Utf8.text?, hspace]
  cases hrest : (Utf8.decode p).mapM id with
  | none => simp [hrest]
  | some cs => simp [hrest, hcut]

/-! ## The last value -/

/-- The last of some pairs that gives a name a value gives it this one. -/
def GivesLast (ps : List Bytes) (name value : String) : Prop :=
  ∃ before pair after, ps = before ++ pair :: after ∧ Gives pair name value ∧
    ∀ p ∈ after, PassedOver name p

/-- A list is another with more elements of some sort, anywhere. -/
inductive Inserts (sort : Bytes → Prop) : List Bytes → List Bytes → Prop where
  | nil : Inserts sort [] []
  | keep {ps qs : List Bytes} (p : Bytes) (rest : Inserts sort ps qs) :
      Inserts sort (p :: ps) (p :: qs)
  | insert {ps qs : List Bytes} (p : Bytes) (h : sort p) (rest : Inserts sort ps qs) :
      Inserts sort ps (p :: qs)

theorem Inserts.mono {sort sort' : Bytes → Prop} {ps qs : List Bytes} (h : Inserts sort ps qs)
    (himp : ∀ p, sort p → sort' p) : Inserts sort' ps qs := by
  induction h with
  | nil => exact .nil
  | keep p rest ih => exact .keep p ih
  | insert p hp rest ih => exact .insert p (himp p hp) ih

/-- The last value in some pairs. -/
def lastOf? (name : String) (ps : List Bytes) : Option String :=
  (ps.filterMap (value? name)).getLast?

variable {name : String} {ps qs : List Bytes}

theorem lastOf?_append : lastOf? name (ps ++ qs) = (lastOf? name qs).or (lastOf? name ps) := by
  rw [lastOf?, List.filterMap_append, List.getLast?_append, lastOf?, lastOf?]

theorem lastOf?_eq_some_iff {value : String} :
    lastOf? name ps = some value ↔ GivesLast ps name value := by
  rw [lastOf?, List.getLast?_filterMap, List.findSome?_eq_some_iff, GivesLast]
  -- The last value is the first one from behind, so the parts change places.
  constructor
  · rintro ⟨after, pair, before, hps, hgives, hafter⟩
    refine ⟨before.reverse, pair, after.reverse, ?_, value?_eq_some_iff.1 hgives, ?_⟩
    · simpa using List.reverse_eq_append_iff.1 hps
    · exact fun p hp => passedOver_iff.2 (value?_eq_none_iff.1 (hafter p (List.mem_reverse.1 hp)))
  · rintro ⟨before, pair, after, rfl, hgives, hafter⟩
    refine ⟨after.reverse, pair, before.reverse, by simp, value?_eq_some_iff.2 hgives, ?_⟩
    exact fun p hp =>
      value?_eq_none_iff.2 (passedOver_iff.1 (hafter p (List.mem_reverse.1 hp)))

theorem lastOf?_eq_none_iff : lastOf? name ps = none ↔ ∀ p ∈ ps, PassedOver name p := by
  rw [lastOf?, List.getLast?_eq_none_iff, List.filterMap_eq_nil_iff]
  exact forall₂_congr fun p _ => value?_eq_none_iff.trans passedOver_iff.symm

/-- Pairs that are passed over make no difference. -/
theorem lastOf?_of_inserts (h : Inserts (PassedOver name) ps qs) :
    lastOf? name qs = lastOf? name ps := by
  -- The values are those of the same pairs: what is inserted has none.
  have hfound : qs.filterMap (value? name) = ps.filterMap (value? name) := by
    induction h with
    | nil => rfl
    | keep p rest ih => rw [List.filterMap_cons, List.filterMap_cons, ih]
    | insert p hp rest ih =>
      rw [List.filterMap_cons_none (value?_eq_none_iff.2 (passedOver_iff.1 hp)), ih]
  rw [lastOf?, lastOf?, hfound]

theorem lastOf?_pairs_space (header : Bytes) :
    lastOf? name (pairs (0x20 :: header)) = lastOf? name (pairs header) := by
  rw [pairs.eq_2]
  cases hpairs : pairs header with
  | nil => exact absurd hpairs (pairs_ne_nil header)
  | cons p ps =>
    have hspace : (0x20 : UInt8) ≠ 0x3b := by decide
    simp only [lastOf?, List.filterMap_cons, value?_space, if_neg hspace]

/-- Two headers say the same as one that has both, with a semicolon between and a blank behind it or
not. -/
theorem lastOf?_pairs_join (first second : Bytes) {separator : Bytes}
    (h : separator ∈ [[0x3b], [0x3b, 0x20]]) : lastOf? name (pairs (first ++ separator ++ second)) =
      lastOf? name (pairs first ++ pairs second) := by
  rcases List.mem_pair.1 h with rfl | rfl
  · rw [List.append_assoc, List.singleton_append, pairs_append]
  · rw [List.append_assoc, List.cons_append, List.singleton_append, pairs_append, lastOf?_append,
      lastOf?_append, lastOf?_pairs_space]

theorem last?_eq (headers : List Bytes) :
    last? headers name = lastOf? name (headers.flatMap pairs) := rfl

/-- The value under a name is that of the last pair which gives one. It stays the same when headers
are joined into one or get pairs that are passed over, and a later part of the headers has it before
an earlier one. -/
theorem last?_exact (name : String) :
    (∀ headers, ∃! ps, AllPairs headers ps) ∧
    (∀ headers ps, AllPairs headers ps →
      (∀ value, last? headers name = some value ↔ GivesLast ps name value) ∧
      (last? headers name = none ↔ ∀ p ∈ ps, PassedOver name p)) ∧
    (∀ before first second after, ∀ separator ∈ [[0x3b], [0x3b, 0x20]],
      last? (before ++ (first ++ separator ++ second) :: after) name =
        last? (before ++ first :: second :: after) name) ∧
    (∀ headers headers' ps ps', AllPairs headers ps → AllPairs headers' ps' →
      Inserts (PassedOver name) ps ps' → last? headers' name = last? headers name) ∧
    ∀ first second, last? (first ++ second) name =
      (last? second name).or (last? first name) := by
  refine ⟨fun headers => ?_, fun headers ps hps => ?_,
    fun before first second after separator h => ?_,
    fun headers headers' ps ps' hps hps' h => ?_, fun first second => ?_⟩
  · simp only [allPairs_iff]
    exact existsUnique_eq
  · rw [last?_eq, ← allPairs_iff.1 hps]
    exact ⟨fun value => lastOf?_eq_some_iff, lastOf?_eq_none_iff⟩
  · have hjoin : lastOf? name (pairs (first ++ separator ++ second)) =
        lastOf? name (pairs first ++ pairs second) := lastOf?_pairs_join first second h
    simp only [last?_eq, List.flatMap_append, List.flatMap_cons, lastOf?_append] at hjoin ⊢
    simp only [hjoin, Option.or_assoc]
  · rw [last?_eq, last?_eq, ← allPairs_iff.1 hps, ← allPairs_iff.1 hps']
    exact lastOf?_of_inserts h
  · simp only [last?_eq, List.flatMap_append, lastOf?_append]

/-- A pair with the name `session`, white space and double quotes. -/
def samplePair : Bytes :=
  Utf8.encode " session = \"a=é\" "

/-- Pairs that are passed over under the name `session`. -/
def sampleOthers : List Bytes :=
  [Utf8.encode "session_x=2", [0xff, 0xfe], Utf8.encode "session"]

theorem last?_exact_sample :
    AllPairs [samplePair] [samplePair] ∧
    AllPairs [Utf8.encode "session=", join (samplePair :: sampleOthers)]
      (Utf8.encode "session=" :: samplePair :: sampleOthers) ∧
    Inserts (PassedOver "session") [samplePair] (samplePair :: sampleOthers) ∧
    GivesLast (samplePair :: sampleOthers) "session" "a=é" ∧
    last? [Utf8.encode "session=", join (samplePair :: sampleOthers)] "session" = some "a=é" := by
  obtain ⟨-, hlast, -, hinsert, hconcat⟩ := last?_exact "session"
  have hpair : AllPairs [samplePair] [samplePair] := allPairs_iff.2 (by decide +kernel)
  have hall : AllPairs [join (samplePair :: sampleOthers)] (samplePair :: sampleOthers) :=
    allPairs_iff.2 (by decide +kernel)
  have hothers : ∀ p ∈ sampleOthers, PassedOver "session" p := by
    have hnone : ∀ p ∈ sampleOthers, value? "session" p = none := by decide +kernel
    exact fun p hp => passedOver_iff.2 (value?_eq_none_iff.1 (hnone p hp))
  have hgives : Gives samplePair "session" "a=é" := value?_eq_some_iff.1 (by decide +kernel)
  have hinserts : Inserts (PassedOver "session") [samplePair] (samplePair :: sampleOthers) :=
    .keep _ (.insert _ (hothers _ (by simp [sampleOthers])) (.insert _
      (hothers _ (by simp [sampleOthers])) (.insert _ (hothers _ (by simp [sampleOthers])) .nil)))
  have hone : last? [samplePair] "session" = some "a=é" :=
    ((hlast _ _ hpair).1 "a=é").2 ⟨[], samplePair, [], rfl, hgives, by simp⟩
  refine ⟨hpair, allPairs_iff.2 (by decide +kernel), hinserts,
    ⟨[], samplePair, sampleOthers, rfl, hgives, hothers⟩, ?_⟩
  rw [← List.singleton_append, hconcat, hinsert _ _ _ _ hpair hall hinserts, hone, Option.some_or]

end Cookie
end Gatehouse
