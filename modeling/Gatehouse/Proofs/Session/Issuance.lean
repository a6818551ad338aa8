import Gatehouse.Proofs.Session.Verification
import Gatehouse.Proofs.Session.Wire

/-!
# What an issued token says

The parts of a token are read back from their text: the header names the key that has signed, and
the payload carries the claims that were written, whatever texts are in them. So the token is
accepted under its key as long as the clock is right.
-/

namespace Gatehouse

namespace SessionToken

/-! ## Parts -/

theorem decode?_encode (bs : Bytes) :
    Base64.urlSafe.decode? (Base64.urlSafe.encode bs) = some bs :=
  (Base64.Dialect.decode?_eq_some_iff Base64.urlSafe_lawful).2 rfl

theorem partJson?_encodePart {j : Json} (h : Json.ofBytes? (Utf8.encode j.render) = some j) :
    CompactToken.partJson? (encodePart j) = some j := by
  rw [CompactToken.partJson?, encodePart, decode?_encode, Option.bind_some, h]

/-- The header of a token that a key signs. -/
def headerFor (signer : Uuid) : TokenHeader :=
  ⟨.es256, some (IdFormat.signingKey.format signer)⟩

/-- A written header names the key that it was written for, and no other. -/
theorem names_encodePart_iff {signer keyId : Uuid} :
    Names (encodePart (headerFor signer).toJson) keyId ↔ keyId = signer := by
  have hread := partJson?_encodePart (TokenHeader.ofBytes?_encode_render (headerFor signer))
  rw [Names, hread, Option.bind_some, TokenHeader.ofJson?_toJson]
  constructor
  · rintro ⟨h, hh, -, hkid⟩
    obtain rfl := Option.some.inj hh
    exact (IdFormat.format_injective _ (Option.some.inj hkid)).symm
  · rintro rfl
    exact ⟨_, rfl, rfl, rfl⟩

/-- A written payload carries the claims that were written, and no others. -/
theorem carries_encodePart_iff {claims found : SessionClaims} (h : claims.HasTimes) :
    Carries (encodePart claims.toJson) found ↔ found = claims := by
  have hread := partJson?_encodePart (SessionClaims.ofBytes?_encode_render h)
  have hclaims := SessionClaims.ofJson?_toJson h
  constructor
  · rintro ⟨ms, hms, hfound⟩
    rw [hread] at hms
    rw [← Option.some.inj hms, hclaims] at hfound
    exact (Option.some.inj hfound).symm
  · rintro rfl
    exact ⟨_, hread, hclaims⟩

/-! ## Signed tokens -/

section Signed

variable {pair : PrivateKey} {seed : Bytes} {header : TokenHeader} {claims : SessionClaims}

/-- The bytes that the signature of a token covers. -/
def covered (header : TokenHeader) (claims : SessionClaims) : Bytes :=
  CompactToken.message ⟨encodePart header.toJson, encodePart claims.toJson, ""⟩

/-- The covered bytes without the texts in between. -/
theorem covered_eq (header : TokenHeader) (claims : SessionClaims) : covered header claims =
    (Base64.urlSafe.encodeChars (header.toJson.chars.flatMap String.utf8EncodeChar) ++ '.' ::
      Base64.urlSafe.encodeChars (claims.toJson.chars.flatMap String.utf8EncodeChar)).flatMap
      String.utf8EncodeChar := by
  rw [covered, CompactToken.message, Utf8.encode, CompactToken.toList_message]
  simp only [encodePart, Base64.Dialect.encode, Utf8.encode, Json.render, String.toList_ofList]

theorem message_sign : (sign pair seed header claims).message = covered header claims := by
  rw [sign, covered, CompactToken.message, CompactToken.message]

theorem signed_sign_iff {key : PublicKey} : Signed key (sign pair seed header claims) ↔
    Ecdsa.verify key (covered header claims)
      (Ecdsa.sign pair seed (covered header claims)) = true := by
  have hread : Base64.urlSafe.decode? (sign pair seed header claims).signature =
      some (Ecdsa.sign pair seed (covered header claims)) := decode?_encode _
  rw [Signed, hread, message_sign]
  constructor
  · rintro ⟨signature, hsignature, hverify⟩
    rwa [← Option.some.inj hsignature] at hverify
  · intro hverify
    exact ⟨_, rfl, hverify⟩

theorem parse?_render_sign : CompactToken.parse? (sign pair seed header claims).render =
    some (sign pair seed header claims) :=
  CompactToken.parse?_eq_some_iff.2
    ⟨rfl, Base64.dot_not_mem_encode_urlSafe _, Base64.dot_not_mem_encode_urlSafe _⟩

end Signed

/-! ## Issued tokens -/

section Issued

variable {c : TokenConfig} {subject : SessionSubject} {ttl now : Int}

/-- The times of the claims fit where the clock does and the life does not reach past its end. -/
theorem hasTimes_claimsOf (hnow : 0 ≤ now) (hlife : 0 ≤ ttl) (hend : now + ttl < Limit.bits63) :
    (claimsOf c subject ttl now).HasTimes := by
  have hfits : ∀ n : Int, 0 ≤ n → n ≤ now + ttl → Limit.isInt64 n = true := by
    intro n hn hle
    rw [Limit.isInt64, Bool.and_eq_true, decide_eq_true_eq, decide_eq_true_eq]
    omega
  -- All three times lie between the beginning of time and the end of the token's life.
  exact ⟨hfits (now + ttl) (by omega) (by omega), hfits now hnow (by omega),
    hfits now hnow (by omega)⟩

/-- **Issued tokens.** A token signed with the key `signer` is accepted with the ids of its subject
and no others, and that while its key is active under a public half that verifies it and the clock
stands within its life. -/
theorem accepted_sign_iff [Wording] {db : Database} {pair : PrivateKey} {seed : Bytes}
    {signer : Uuid} {time : Int} {userId sessionId organizationId : Uuid} (hnow : 0 ≤ now) (hlife : 0 ≤ ttl)
    (hend : now + ttl < Limit.bits63) {t : CompactToken}
    (ht : t = sign pair seed (headerFor signer) (claimsOf c subject ttl now)) :
    Accepted c db subject.projectId time t.render userId sessionId organizationId ↔
      (userId = subject.userId ∧ sessionId = subject.sessionId ∧
        organizationId = subject.organizationId) ∧
      (∃ key, ActiveKey db subject.projectId time signer key ∧ Signed key t) ∧
      now ≤ time + c.leeway ∧ time - c.leeway < now + ttl := by
  have htimes : (claimsOf c subject ttl now).HasTimes := hasTimes_claimsOf hnow hlife hend
  have hparse : CompactToken.parse? t.render = some t := by
    rw [ht]
    exact parse?_render_sign
  constructor
  · rintro ⟨t', claims, hrender, h⟩
    -- A text has one reading, so the accepted parts are those that were signed.
    have hsame : t' = t := by
      have hread := h.parse?_render
      rw [← hrender] at hread
      exact Option.some.inj (hread.symm.trans hparse)
    subst hsame ht
    obtain rfl := (carries_encodePart_iff htimes).1 h.carries
    obtain ⟨keyId, key, hnames, hactive, hsigned⟩ := h.signed
    obtain rfl := names_encodePart_iff.1 hnames
    refine ⟨⟨?_, ?_, ?_⟩, ⟨key, hactive, hsigned⟩, h.begun, h.notExpired⟩
    · exact (IdFormat.format_injective _ h.user).symm
    · exact (IdFormat.format_injective _ h.session).symm
    · exact (IdFormat.format_injective _ h.organization).symm
  · rintro ⟨⟨rfl, rfl, rfl⟩, ⟨key, hactive, hsigned⟩, hbegun, hexpired⟩
    subst ht
    refine ⟨_, claimsOf c subject ttl now, rfl, ?_⟩
    exact
      { signed := ⟨signer, key, names_encodePart_iff.2 rfl, hactive, hsigned⟩
        carries := (carries_encodePart_iff htimes).2 rfl
        expNonneg := by
          show 0 ≤ now + ttl
          omega
        audience := rfl
        notExpired := hexpired
        begun := hbegun
        user := rfl
        session := rfl
        organization := rfl }

/-- What is issued is signed with the key that is handed out for signing. -/
theorem issue_eq_ok [Wording] {σ : Type} {keys : SigningKeys σ} {seed : Bytes} {w w' : World σ}
    {issued : IssuedToken} (h : (issue keys c seed subject now).run w = (.ok issued, w')) :
    ∃ signer pair mid, (keys.signingKey subject.projectId now).run w = (.ok (signer, pair), mid) ∧
      issued.accessToken = (sign pair seed (headerFor signer)
        (claimsOf c subject c.accessTokenTtl now)).render := by
  obtain ⟨ttl, w₁, hclock, hrest⟩ := Call.run_bind_eq_ok_iff.1 h
  -- The life is a number of seconds that has to fit the clock, and is asked for first.
  have httl : ttl = c.accessTokenTtl ∧ w₁ = w := by
    have hseconds := congrArg Prod.fst hclock
    rw [Call.run_ofExcept, clockSeconds] at hseconds
    split at hseconds
    · exact ⟨(Except.ok.inj hseconds).symm, (congrArg Prod.snd hclock).symm⟩
    · cases hseconds
  obtain ⟨rfl, rfl⟩ := httl
  obtain ⟨⟨signer, pair⟩, mid, hkey, hdone⟩ := Call.run_bind_eq_ok_iff.1 hrest
  obtain rfl := Except.ok.inj (congrArg Prod.fst hdone)
  exact ⟨signer, pair, mid, hkey, rfl⟩

theorem clockSeconds_of_lt {n : Nat} (h : n < Limit.bits63) : clockSeconds n = .ok (n : Int) :=
  if_pos h

theorem clockSeconds_of_le {n : Nat} (h : Limit.bits63 ≤ n) :
    clockSeconds n = .error (.invalidInput s!"duration {n}s too large") :=
  if_neg (Nat.not_lt.2 h)

/-- A token is issued if there is a key to sign it. -/
theorem issue_of_signingKey [Wording] {σ : Type} {keys : SigningKeys σ} (subject : SessionSubject)
    (seed : Bytes) {w mid : World σ}
    {signer : Uuid} {pair : PrivateKey} (hlife : c.accessTokenTtl < Limit.bits63)
    (hkey : (keys.signingKey subject.projectId now).run w = (.ok (signer, pair), mid)) :
    ((issue keys c seed subject now).run w).1 = .ok
      ⟨(sign pair seed (headerFor signer) (claimsOf c subject c.accessTokenTtl now)).render,
        now + c.accessTokenTtl⟩ := by
  rw [issue, clockSeconds_of_lt hlife, Call.run_bind_of_ok (Call.run_ofExcept _ _)]
  dsimp only
  rw [Call.run_bind_of_ok hkey]
  rfl

end Issued

end SessionToken
end Gatehouse
