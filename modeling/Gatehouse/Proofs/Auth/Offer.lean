import Gatehouse.Auth.Gate
import Gatehouse.Proofs.Auth.Cookie
import Gatehouse.Proofs.Session.Tokens

/-!
# Values that cookies offer

A pair puts a value under a name as it is or in double quotes, with white space around it. If name
and value hold no character at which cookies are cut, trimmed or unquoted, the value is found again
as it is, whatever stands around the pair. The names of consoles' cookies are such texts, and so are
tokens, whatever texts are in their claims.
-/

namespace Gatehouse

/-! ## Writing a pair -/

namespace Cookie

/-- A character at which no pair is cut, trimmed or unquoted. -/
def isInert (c : Char) : Bool :=
  !Text.isBlank c && c != ';' && c != '=' && c != '"'

/-- The characters of a text are inert. -/
def Inert (s : String) : Prop :=
  ∀ c ∈ s.toList, isInert c = true

theorem Inert.isBlank {s : String} (h : Inert s) {c : Char} (hc : c ∈ s.toList) :
    Text.isBlank c = false := by
  have hinert := h c hc
  simp only [isInert, Bool.and_eq_true, Bool.not_eq_true'] at hinert
  exact hinert.1.1.1

theorem Inert.not_mem {s : String} (h : Inert s) {c : Char} (hc : isInert c = false) :
    c ∉ s.toList := by
  intro hmem
  rw [h c hmem] at hc
  cases hc

/-- A pair puts a value under a name: the value stands as it is or in double quotes, and white space
may stand around it and around the name. -/
def Puts (pair : Bytes) (name value : String) : Prop :=
  ∃ b₁ b₂ b₃ b₄ shown : List Char, (∀ c ∈ b₁ ++ b₂ ++ b₃ ++ b₄, Text.isBlank c = true) ∧
    (shown = value.toList ∨ shown = '"' :: (value.toList ++ ['"'])) ∧
    pair = Utf8.encode (.ofList (b₁ ++ name.toList ++ b₂ ++ '=' :: (b₃ ++ shown ++ b₄)))

/-- Some headers offer a value under a name: a pair puts it there, among any other bytes, and no
pair behind it has that name. -/
def Offers (headers : List Bytes) (name value : String) : Prop :=
  ∃ hs₁ ps₁ pair ps₂ hs₂, headers = hs₁ ++ join (ps₁ ++ pair :: ps₂) :: hs₂ ∧
    Puts pair name value ∧ ∀ p ∈ (ps₂ ++ hs₂).flatMap pairs, ∀ v, ¬Gives p name v

/-- A text without white space is what white space around it is trimmed to. -/
theorem trims_of_not_isBlank {before t after : List Char} (ht : ∀ c ∈ t, Text.isBlank c = false)
    (hbefore : ∀ c ∈ before, Text.isBlank c = true) (hafter : ∀ c ∈ after, Text.isBlank c = true) :
    Text.Trims (before ++ t ++ after) t where
  surrounded := ⟨before, after, rfl, hbefore, hafter⟩
  head c hc := ht c (List.mem_of_head? hc)
  last c hc := ht c (List.mem_of_getLast? hc)

section Puts

variable {pair : Bytes} {name value : String}

theorem gives_of_puts (hname : Inert name) (hvalue : Inert value) (h : Puts pair name value) :
    Gives pair name value := by
  obtain ⟨b₁, b₂, b₃, b₄, shown, hblank, hshown, hpair⟩ := h
  simp only [List.mem_append, or_imp, forall_and] at hblank
  obtain ⟨⟨⟨h₁, h₂⟩, h₃⟩, h₄⟩ := hblank
  have hequals : ∀ b : List Char, (∀ c ∈ b, Text.isBlank c = true) → '=' ∉ b := by
    intro b hb hmem
    cases hb '=' hmem
  have hplain : ∀ c ∈ shown, Text.isBlank c = false := by
    rcases hshown with rfl | rfl
    · exact fun c hc => hvalue.isBlank hc
    · intro c hc
      simp only [List.mem_cons, List.mem_append, List.not_mem_nil, or_false] at hc
      rcases hc with rfl | hc | rfl
      · rfl
      · exact hvalue.isBlank hc
      · rfl
  -- The first equals sign is the one between, and what is trimmed off is the white space.
  refine ⟨b₁ ++ name.toList ++ b₂, _, shown, hpair, ?_,
    trims_of_not_isBlank (fun c hc => hname.isBlank hc) h₁ h₂,
    trims_of_not_isBlank hplain h₃ h₄, ?_⟩
  · simp only [List.mem_append, not_or]
    exact ⟨⟨hequals _ h₁, hname.not_mem rfl⟩, hequals _ h₂⟩
  · rcases hshown with rfl | rfl
    · refine .inr ⟨rfl, fun u hu => hvalue.not_mem (c := '"') rfl ?_⟩
      rw [hu]
      exact List.mem_cons_self
    · exact .inl rfl

/-- Such a pair is not cut. -/
theorem semicolon_not_mem_of_puts (hname : Inert name) (hvalue : Inert value)
    (h : Puts pair name value) : (0x3b : UInt8) ∉ pair := by
  obtain ⟨b₁, b₂, b₃, b₄, shown, hblank, hshown, rfl⟩ := h
  intro hmem
  have hchar : ';' ∈ b₁ ++ name.toList ++ b₂ ++ '=' :: (b₃ ++ shown ++ b₄) := by
    have hread := Utf8.mem_of_mem_encode (c := ';') rfl (by decide) hmem
    rwa [String.toList_ofList] at hread
  have hplain : ';' ∉ shown := by
    have hnot : ';' ∉ value.toList := hvalue.not_mem rfl
    rcases hshown with rfl | rfl
    · exact hnot
    · simpa using hnot
  have hspace : ';' ∉ b₁ ++ b₂ ++ b₃ ++ b₄ := fun hc => Bool.noConfusion (hblank ';' hc)
  have hnot : ';' ∉ name.toList := hname.not_mem rfl
  simp only [List.mem_append, List.mem_cons, not_or] at hchar hspace
  simp [hspace, hnot, hplain] at hchar

/-- A byte string without a semicolon is one pair. -/
theorem pairs_of_semicolon_not_mem (h : (0x3b : UInt8) ∉ pair) : pairs pair = [pair] := by
  refine (splits_iff.1 ⟨?_, ?_, List.cons_ne_nil _ _⟩).symm
  · rw [join, List.intercalate_singleton]
  · intro p hp
    rwa [List.mem_singleton.1 hp]

/-- Byte strings with semicolons between have the pairs of each, one after the other. -/
theorem pairs_join {ps : List Bytes} (h : ps ≠ []) : pairs (join ps) = ps.flatMap pairs := by
  induction ps with
  | nil => exact absurd rfl h
  | cons p ps ih =>
    cases ps with
    | nil => simp [join]
    | cons q qs =>
      have hjoin : join (p :: q :: qs) = p ++ 0x3b :: join (q :: qs) := by
        rw [join, List.intercalate_cons_cons, join, List.append_assoc, List.singleton_append]
      rw [hjoin, pairs_append, ih (List.cons_ne_nil _ _), ← List.flatMap_cons]

/-- A value that is offered is the last one under its name. -/
theorem givesLast_of_offers {headers ps : List Bytes} (hname : Inert name) (hvalue : Inert value)
    (h : Offers headers name value) (hps : AllPairs headers ps) : GivesLast ps name value := by
  obtain ⟨hs₁, ps₁, pair, ps₂, hs₂, rfl, hputs, hlater⟩ := h
  obtain rfl := allPairs_iff.1 hps
  -- Whatever the neighbours are cut into, the pair itself stays whole.
  have hpair := pairs_of_semicolon_not_mem (semicolon_not_mem_of_puts hname hvalue hputs)
  refine ⟨hs₁.flatMap pairs ++ ps₁.flatMap pairs, pair, (ps₂ ++ hs₂).flatMap pairs, ?_,
    gives_of_puts hname hvalue hputs, fun p hp => passedOver_iff.2 (hlater p hp)⟩
  simp [pairs_join, hpair]

theorem last?_of_offers {headers : List Bytes} (hname : Inert name) (hvalue : Inert value)
    (h : Offers headers name value) : last? headers name = some value := by
  rw [last?_eq, lastOf?_eq_some_iff]
  exact givesLast_of_offers hname hvalue h (allPairs_iff.2 rfl)

end Puts

end Cookie

/-! ## Issued tokens -/

namespace SessionToken

variable {σ : Type}

theorem isInert_of_mem_encode_urlSafe {bs : Bytes} {c : Char}
    (h : c ∈ (Base64.urlSafe.encode bs).toList) : Cookie.isInert c = true := by
  rw [Base64.Dialect.encode, String.toList_ofList] at h
  rcases Base64.Dialect.mem_encodeChars h with ⟨n, hn, rfl⟩ | ⟨hpad, -⟩
  · have hchar : ∀ n < 64, Cookie.isInert (Base64.urlSafe.char n) = true := by decide
    exact hchar n hn
  · cases hpad

/-- The characters of a token are those of base64 for URLs, and dots. -/
theorem inert_render_sign {pair : PrivateKey} {seed : Bytes} {header : TokenHeader}
    {claims : SessionClaims} : Cookie.Inert (sign pair seed header claims).render := by
  intro c hc
  rw [CompactToken.toList_render] at hc
  simp only [List.mem_append, List.mem_cons] at hc
  rcases hc with (hc | rfl | hc) | rfl | hc
  · exact isInert_of_mem_encode_urlSafe hc
  · rfl
  · exact isInert_of_mem_encode_urlSafe hc
  · rfl
  · exact isInert_of_mem_encode_urlSafe hc

theorem render_ne_empty (t : CompactToken) : t.render ≠ "" := by
  intro h
  have hdot : '.' ∈ t.render.toList := by
    rw [CompactToken.toList_render]
    exact List.mem_append_right _ List.mem_cons_self
  rw [h] at hdot
  cases hdot

variable [Wording] {keys : SigningKeys σ} {c : TokenConfig} {seed : Bytes}
  {subject : SessionSubject} {now : Int} {w : World σ} {issued : IssuedToken}

theorem inert_issued (h : ((issue keys c seed subject now).run w).1 = .ok issued) :
    Cookie.Inert issued.accessToken := by
  obtain ⟨signer, pair, mid, -, htoken⟩ := issue_eq_ok (Prod.ext h rfl)
  rw [htoken]
  exact inert_render_sign

theorem issued_ne_empty (h : ((issue keys c seed subject now).run w).1 = .ok issued) :
    issued.accessToken ≠ "" := by
  obtain ⟨signer, pair, mid, -, htoken⟩ := issue_eq_ok (Prod.ext h rfl)
  rw [htoken]
  exact render_ne_empty _

end SessionToken

namespace Gate

/-! ## Names of cookies -/

theorem isInert_digitChar {n : Nat} (h : n < 36) :
    Cookie.isInert (IdFormat.digitChar n) = true := by
  revert n
  decide

theorem toList_cookieName (id : Uuid) : (cookieName id).toList =
    "portier_".toList ++ (IdFormat.project.label.toList ++ '_' :: IdFormat.suffix id) ++
      "_access_token".toList := by
  rw [cookieName, String.toList_append, String.toList_append, IdFormat.toList_format]

theorem inert_cookieName (id : Uuid) : Cookie.Inert (cookieName id) := by
  have hbefore : "portier_".toList.all Cookie.isInert = true := by decide +kernel
  have hlabel : IdFormat.project.label.toList.all Cookie.isInert = true := by decide +kernel
  have hafter : "_access_token".toList.all Cookie.isInert = true := by decide +kernel
  intro c hc
  rw [toList_cookieName] at hc
  simp only [List.mem_append, List.mem_cons] at hc
  rcases hc with (hc | hc | rfl | hc) | hc
  · exact List.all_eq_true.1 hbefore c hc
  · exact List.all_eq_true.1 hlabel c hc
  · rfl
  · obtain ⟨d, hd, rfl⟩ := List.mem_map.1 hc
    exact isInert_digitChar (Positional.lt_of_mem_digits (by decide) hd)
  · exact List.all_eq_true.1 hafter c hc

/-- Each console has a cookie of its own. -/
theorem cookieName_injective {a b : Uuid} (h : cookieName a = cookieName b) : a = b := by
  rw [cookieName, cookieName] at h
  have hformat := (String.append_left_inj _).1 h
  exact IdFormat.format_injective _ ((String.append_right_inj _).1 hformat)

/-- A pair is a cookie of another console. -/
def OfOther (consoleProjectId : Uuid) (pair : Bytes) : Prop :=
  ∃ other value, other ≠ consoleProjectId ∧ Cookie.Gives pair (cookieName other) value

theorem passedOver_of_ofOther {consoleProjectId : Uuid} {pair : Bytes}
    (h : OfOther consoleProjectId pair) : Cookie.PassedOver (cookieName consoleProjectId) pair := by
  obtain ⟨other, value, hother, hgives⟩ := h
  exact Cookie.passedOver_iff.2 fun value' hgives' =>
    hother (cookieName_injective (hgives.name_unique hgives'))

/-! ## Headers with a token -/

/-- A cookie of the console 1 with the token of its owner, in double quotes. -/
def sampleCookie : Bytes :=
  Utf8.encode (.ofList ([' '] ++ (cookieName (.ofNat 1)).toList ++ [] ++ '=' ::
    ([] ++ '"' :: (SessionToken.sampleToken.render.toList ++ ['"']) ++ [' '])))

/-- Headers with that cookie, among others, and with a cookie of another console behind it. -/
def sampleHeaders : Http.Headers :=
  [("Cookie", Cookie.join [Utf8.encode "theme=café", sampleCookie]),
    ("cookie", Cookie.join [[0xff], Utf8.encode (cookieName (.ofNat 2) ++ "=other")])]

theorem offers_sampleHeaders :
    Cookie.Offers (sampleHeaders.values "cookie") (cookieName (.ofNat 1))
      SessionToken.sampleToken.render := by
  have hname : "Cookie".toLower == "cookie" := by decide +kernel
  have hname' : "cookie".toLower == "cookie" := by decide +kernel
  have hvalues : sampleHeaders.values "cookie" = sampleHeaders.map (·.2) := by
    rw [Http.Headers.values, sampleHeaders, List.filter_cons, if_pos hname, List.filter_cons,
      if_pos hname', List.filter_nil]
  have hlater : ∀ p ∈ Cookie.pairs
      (Cookie.join [[0xff], Utf8.encode (cookieName (.ofNat 2) ++ "=other")]),
      Cookie.value? (cookieName (.ofNat 1)) p = none := by decide +kernel
  have hblank : ∀ c ∈ [' '] ++ [] ++ [] ++ [' '], Text.isBlank c = true := by
    intro c hc
    obtain rfl : c = ' ' := by simpa using hc
    rfl
  refine ⟨[], [Utf8.encode "theme=café"], sampleCookie, [], _, hvalues, ?_, fun p hp => ?_⟩
  · exact ⟨[' '], [], [], [' '], _, hblank, .inr rfl, rfl⟩
  · rw [List.nil_append, List.map_singleton, List.flatMap_singleton] at hp
    exact Cookie.value?_eq_none_iff.1 (hlater p hp)

end Gate
end Gatehouse
