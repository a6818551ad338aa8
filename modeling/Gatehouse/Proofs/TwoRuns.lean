import Gatehouse.Proofs.Store.Erasure
import Gatehouse.Proofs.Store.Query

/-!
# Two runs side by side

Two worlds are twins if their logs are the same and their tables are, once the columns that come of
secrets are erased. Of two runs from twin worlds two things are kept track of: that they lead to twin
worlds if both succeed, and, under a condition on what they draw and ask for, that they end alike
and lead to twin worlds in any case. Each kind of call has its rule, and a call in parts follows from
its parts.

Apart from that, it is asked of single runs in which ways they fail without having said anything. Two
runs that fail in such ways have said the same, whatever led to it.
-/

namespace Gatehouse

variable {σ ε ε' α β γ δ : Type}

/-! ## Results -/

/-- Two results end alike: both with some value, or both with the same failure. -/
def EndAlike (r : Except ε α) (r' : Except ε β) : Prop :=
  (r.map fun _ => ()) = r'.map fun _ => ()

section EndAlike

variable {r : Except ε α} {r' : Except ε β}

theorem EndAlike.refl (r : Except ε α) : EndAlike r r := rfl

theorem endAlike_ok (a : α) (b : β) : EndAlike (.ok a : Except ε α) (.ok b : Except ε β) := rfl

theorem EndAlike.mapError (h : EndAlike r r') (f : ε → ε') :
    EndAlike (r.mapError f) (r'.mapError f) := by
  rcases r with e | a
  · rcases r' with e' | b
    · obtain rfl := Except.error.inj h
      exact rfl
    · cases h
  · rcases r' with e' | b
    · cases h
    · rfl

/-- Results that are the same after a change of their values end alike. -/
theorem endAlike_of_map_eq {f : α → γ} {g : β → γ} (h : r.map f = r'.map g) : EndAlike r r' := by
  rcases r with e | a
  · rcases r' with e' | b
    · exact congrArg Except.error (Except.error.inj h)
    · cases h
  · rcases r' with e' | b
    · cases h
    · rfl

/-- Results without values are the same if they end alike. -/
theorem EndAlike.eq {r r' : Except ε Unit} (h : EndAlike r r') : r = r' := by
  rcases r with e | ⟨⟩
  · rcases r' with e' | ⟨⟩
    · exact congrArg Except.error (Except.error.inj h)
    · cases h
  · rcases r' with e' | ⟨⟩
    · cases h
    · rfl

end EndAlike

/-! ## Worlds -/

/-- Two worlds that can be told apart by what comes of secrets only. The states of their key
protectors may differ. -/
structure World.Twins (w v : World σ) : Prop where
  tables : w.tables.erased = v.tables.erased
  log : w.log = v.log

theorem World.Twins.refl (w : World σ) : w.Twins w := ⟨rfl, rfl⟩

/-- Twins whose logs grow by the same events stay twins. -/
theorem World.Twins.append {w v : World σ} (h : w.Twins v) (events : List Log.Event) :
    World.Twins { w with log := w.log ++ events } { v with log := v.log ++ events } :=
  ⟨h.tables, congrArg (· ++ events) h.log⟩

namespace Call

/-- What two runs have in common. If both succeed, their values are related and their worlds are
twins. Under a condition they end alike, and their worlds are twins in any case. -/
structure Agree (condition : Prop) (R : α → β → Prop) (out : Except ε α × World σ)
    (out' : Except ε β × World σ) : Prop where
  succeed : ∀ a b, out.1 = .ok a → out'.1 = .ok b → R a b ∧ out.2.Twins out'.2
  alike : condition → EndAlike out.1 out'.1 ∧ out.2.Twins out'.2

section Agree

variable {p : Prop} {R : α → β → Prop} {w v : World σ}

theorem Agree.imp {q : Prop} {out : Except ε α × World σ} {out' : Except ε β × World σ}
    (h : Agree p R out out') (hpq : q → p) : Agree q R out out' :=
  ⟨h.succeed, fun hq => h.alike (hpq hq)⟩

/-- Two results that leave their worlds alone. -/
theorem Agree.result {r : Except ε α} {r' : Except ε β} (h : w.Twins v)
    (hvalues : ∀ a b, r = .ok a → r' = .ok b → R a b) (halike : p → EndAlike r r') :
    Agree p R (r, w) (r', v) where
  succeed a b ha hb := ⟨hvalues a b ha hb, h⟩
  alike hp := ⟨halike hp, h⟩

theorem Agree.ok {a : α} {b : β} (hab : R a b) (h : w.Twins v) :
    Agree p R ((.ok a, w) : Except ε α × World σ) (.ok b, v) :=
  .result h (fun _ _ ha hb => Except.ok.inj ha ▸ Except.ok.inj hb ▸ hab) fun _ => endAlike_ok a b

theorem Agree.error (e : ε) (h : w.Twins v) :
    Agree p R ((.error e, w) : Except ε α × World σ) (.error e, v) :=
  .result h nofun fun _ => rfl

/-- The same plain result on both sides. -/
theorem agree_ofExcept (r : Except ε α) (h : w.Twins v) :
    Agree p Eq ((ofExcept r).run w) ((ofExcept r).run v) := by
  rw [run_ofExcept, run_ofExcept]
  refine .result h (fun a b ha hb => ?_) fun _ => .refl r
  exact Except.ok.inj (ha.symm.trans hb)

/-- Two transactions that do the same to the erased tables. -/
theorem agree_transact {f f' : Database → Except ε Database} (h : w.Twins v)
    (htables : ∀ db db', f w.tables = .ok db → f' v.tables = .ok db' → db.erased = db'.erased)
    (halike : p → (f w.tables).map Database.erased = (f' v.tables).map Database.erased) :
    Agree p (fun _ _ => True) ((transact f).run w) ((transact f').run v) := by
  -- A transaction that fails leaves its world alone, so the twins stay twins if both fail.
  cases hf : f w.tables with
  | error e =>
    rw [run_transact_of_error hf]
    refine ⟨nofun, fun hp => ?_⟩
    have hsame := halike hp
    rw [hf] at hsame
    cases hf' : f' v.tables with
    | error e' =>
      rw [hf'] at hsame
      rw [run_transact_of_error hf', Except.error.inj hsame]
      exact ⟨rfl, h⟩
    | ok db' =>
      rw [hf'] at hsame
      cases hsame
  | ok db =>
    rw [run_transact_of_ok hf]
    cases hf' : f' v.tables with
    | error e' =>
      rw [run_transact_of_error hf']
      refine ⟨nofun, fun hp => ?_⟩
      have hsame := halike hp
      rw [hf, hf'] at hsame
      cases hsame
    | ok db' =>
      rw [run_transact_of_ok hf']
      exact .ok trivial ⟨htables db db' hf hf', h.log⟩

/-- Two requests to key protectors. Only their answers count, and not what they remember. -/
theorem agree_protect {f : σ → Except ε α × σ} {f' : σ → Except ε β × σ} (h : w.Twins v)
    (halike : p → EndAlike (f w.protector).1 (f' v.protector).1) :
    Agree p (fun _ _ => True) ((protect f).run w) ((protect f').run v) := by
  rw [run_protect, run_protect]
  exact .result ⟨h.tables, h.log⟩ (fun _ _ _ _ => trivial) halike

theorem Agree.mapError {c : Call σ ε α} {c' : Call σ ε β} (h : Agree p R (c.run w) (c'.run v))
    (f : ε → ε') : Agree p R ((c.mapError f).run w) ((c'.mapError f).run v) := by
  rcases hrun : c.run w with ⟨r, w'⟩
  rcases hrun' : c'.run v with ⟨r', v'⟩
  rw [hrun, hrun'] at h
  rw [run_mapError, run_mapError, hrun, hrun']
  refine ⟨fun a b ha hb => ?_, fun hp => ⟨(h.alike hp).1.mapError f, (h.alike hp).2⟩⟩
  rcases r with e | a'
  · cases ha
  · rcases r' with e' | b'
    · cases hb
    · exact h.succeed a b (congrArg Except.ok (Except.ok.inj ha))
        (congrArg Except.ok (Except.ok.inj hb))

/-- Failures that are alike are told alike. -/
theorem Agree.telling {c : Call σ ε α} {c' : Call σ ε β} (h : Agree p R (c.run w) (c'.run v))
    (tell : ε → List Log.Event) :
    Agree p R ((c.telling tell).run w) ((c'.telling tell).run v) := by
  rcases hrun : c.run w with ⟨e | a, w'⟩
  · rcases hrun' : c'.run v with ⟨e' | b, v'⟩
    · rw [hrun, hrun'] at h
      rw [run_telling_of_error hrun, run_telling_of_error hrun']
      refine ⟨nofun, fun hp => ?_⟩
      obtain ⟨hends, htwins⟩ := h.alike hp
      obtain rfl := Except.error.inj hends
      exact ⟨rfl, htwins.append (tell e)⟩
    · rw [hrun, hrun'] at h
      rw [run_telling_of_error hrun]
      exact ⟨nofun, fun hp => nomatch (h.alike hp).1⟩
  · rcases hrun' : c'.run v with ⟨e' | b, v'⟩
    · rw [hrun, hrun'] at h
      rw [run_telling_of_error hrun']
      exact ⟨nofun, fun hp => nomatch (h.alike hp).1⟩
    · rw [hrun, hrun'] at h
      rw [run_telling_of_ok hrun, run_telling_of_ok hrun']
      exact h

/-- Two queries that read the tables. -/
theorem agree_read {f : Database → Except StoreError α} {f' : Database → Except StoreError β}
    (h : w.Twins v)
    (hvalues : ∀ a b, f w.tables = .ok a → f' v.tables = .ok b → R a b)
    (halike : p → EndAlike (f w.tables) (f' v.tables)) :
    Agree p R ((Store.read f).run w) ((Store.read f').run v) := by
  have hquery : Agree p R ((query f).run w) ((query f').run v) := .result h hvalues halike
  exact hquery.telling _

/-- Calls in two parts agree if their parts do. -/
theorem Agree.bind {S : γ → δ → Prop} {c : Call σ ε α} {c' : Call σ ε β} {f : α → Call σ ε γ}
    {f' : β → Call σ ε δ} (h : Agree p R (c.run w) (c'.run v))
    (hf : ∀ a b w' v', c.run w = (.ok a, w') → c'.run v = (.ok b, v') → R a b → w'.Twins v' →
      Agree p S ((f a).run w') ((f' b).run v')) :
    Agree p S ((c >>= f).run w) ((c' >>= f').run v) := by
  rcases hrun : c.run w with ⟨e | a, w'⟩
  · rcases hrun' : c'.run v with ⟨e' | b, v'⟩
    · rw [hrun, hrun'] at h
      rw [run_bind_of_error hrun, run_bind_of_error hrun']
      refine ⟨nofun, fun hp => ⟨?_, (h.alike hp).2⟩⟩
      exact congrArg Except.error (Except.error.inj (h.alike hp).1)
    · -- One run fails here and the other one goes on, which the condition rules out.
      rw [hrun, hrun'] at h
      rw [run_bind_of_error hrun]
      exact ⟨nofun, fun hp => nomatch (h.alike hp).1⟩
  · rcases hrun' : c'.run v with ⟨e' | b, v'⟩
    · rw [hrun, hrun'] at h
      rw [run_bind_of_error hrun']
      exact ⟨nofun, fun hp => nomatch (h.alike hp).1⟩
    · rw [hrun, hrun'] at h
      obtain ⟨hab, htwins⟩ := h.succeed a b rfl rfl
      rw [run_bind_of_ok hrun, run_bind_of_ok hrun']
      exact hf a b w' v' hrun hrun' hab htwins

/-- The same event on both sides. -/
theorem agree_emit {e e' : Log.Event} (h : w.Twins v) (he : e = e') :
    Agree p (fun _ _ => True) ((emit e : Call σ ε Unit).run w)
      ((emit e' : Call σ ε Unit).run v) := by
  subst he
  exact .ok trivial (h.append [e])

end Agree

/-- A call of which only its end is told: that it has succeeded, or its failure. -/
def ending (f : ε → ε') (c : Call σ ε α) : Call σ ε' Unit :=
  c.mapError f >>= fun _ => pure ()

theorem Agree.ending {p : Prop} {R : α → β → Prop} {w v : World σ} {c : Call σ ε α}
    {c' : Call σ ε β} (h : Agree p R (c.run w) (c'.run v)) (f : ε → ε') :
    Agree p Eq ((c.ending f).run w) ((c'.ending f).run v) :=
  (h.mapError f).bind fun _ _ _ _ _ _ _ h' => .ok rfl h'

/-! ## What calls have said when they fail -/

/-- A call that says nothing. -/
def Mute (c : Call σ ε α) : Prop :=
  ∀ w : World σ, (c.run w).2.log = w.log

/-- A call that has said nothing if it fails in one sort of ways. -/
def Discreet (sort : ε → Prop) (c : Call σ ε α) : Prop :=
  ∀ (w : World σ) (e : ε), (c.run w).1 = .error e → sort e → (c.run w).2.log = w.log

section Discreet

variable {sort : ε → Prop} {c : Call σ ε α}

theorem mute_ofExcept (r : Except ε α) : Mute (ofExcept r : Call σ ε α) :=
  fun _ => rfl

theorem mute_protect (f : σ → Except ε α × σ) : Mute (protect f) :=
  fun _ => rfl

theorem Mute.mapError (hc : Mute c) (f : ε → ε') : Mute (c.mapError f) := by
  intro w
  rw [run_mapError]
  exact hc w

theorem Mute.bind {g : α → Call σ ε β} (hc : Mute c) (hg : ∀ a, Mute (g a)) :
    Mute (c >>= g) := by
  intro w
  have hsame := hc w
  rcases hrun : c.run w with ⟨e | a, w'⟩
  · rw [hrun] at hsame
    rw [run_bind_of_error hrun]
    exact hsame
  · rw [hrun] at hsame
    rw [run_bind_of_ok hrun]
    exact (hg a w').trans hsame

theorem Mute.discreet (hc : Mute c) : Discreet sort c :=
  fun w _ _ _ => hc w

/-- A failure that is put in other words is a failure. -/
theorem run_mapError_eq_error {f : ε → ε'} {w : World σ} {e' : ε'}
    (h : ((c.mapError f).run w).1 = .error e') : ∃ e, (c.run w).1 = .error e ∧ e' = f e := by
  rw [run_mapError] at h
  cases hout : (c.run w).1 with
  | error e =>
    rw [hout] at h
    exact ⟨e, rfl, (Except.error.inj h).symm⟩
  | ok a =>
    rw [hout] at h
    cases h

/-- A call that fails in one sort of ways only. -/
def FailsAs (sort : ε → Prop) (c : Call σ ε α) : Prop :=
  ∀ (w : World σ) (e : ε), (c.run w).1 = .error e → sort e

theorem failsAs_mapError {sort' : ε' → Prop} {f : ε → ε'} (hf : ∀ e, sort' (f e)) :
    FailsAs sort' (c.mapError f) := by
  intro w e' h
  obtain ⟨e, -, rfl⟩ := run_mapError_eq_error h
  exact hf e

theorem failsAs_ofExcept {sort' : ε' → Prop} {f : ε → ε'} (hf : ∀ e, sort' (f e))
    (r : Except ε α) : FailsAs sort' (ofExcept (r.mapError f) : Call σ ε' α) := by
  intro w e' h
  cases r with
  | error e =>
    obtain rfl := Except.error.inj h
    exact hf e
  | ok a => cases h

theorem Succeeds.failsAs (hc : Succeeds c) : FailsAs sort c := by
  intro w e h
  obtain ⟨a, ha⟩ := hc w
  cases ha.symm.trans h

theorem FailsAs.bind {g : α → Call σ ε β} (hc : FailsAs sort c) (hg : ∀ a, FailsAs sort (g a)) :
    FailsAs sort (c >>= g) := by
  intro w e h
  rcases hrun : c.run w with ⟨e' | a, mid⟩
  · rw [run_bind_of_error hrun] at h
    obtain rfl := Except.error.inj h
    exact hc w e' (congrArg Prod.fst hrun)
  · rw [run_bind_of_ok hrun] at h
    exact hg a mid e h

/-- Nothing is asked of a call that fails in ways of another sort only. -/
theorem FailsAs.discreet (hc : FailsAs (fun e => ¬ sort e) c) : Discreet sort c :=
  fun w e h he => absurd he (hc w e h)

/-- Once a call may have said something, nothing may follow that fails. -/
theorem Discreet.bind_succeeds {g : α → Call σ ε β} (hc : Discreet sort c)
    (hg : ∀ a, Succeeds (g a)) : Discreet sort (c >>= g) := by
  intro w e h he
  rcases hrun : c.run w with ⟨e' | a, w'⟩
  · have hsame := hc w e'
    rw [hrun] at hsame
    rw [run_bind_of_error hrun] at h ⊢
    obtain rfl := Except.error.inj h
    exact hsame rfl he
  · obtain ⟨b, hb⟩ := hg a w'
    rw [run_bind_of_ok hrun, hb] at h
    cases h

/-- As long as nothing has been said, anything discreet may follow. It is asked of the values only
that the first call ends with. -/
theorem Discreet.bind {g : α → Call σ ε β} (hc : Discreet sort c)
    (hquiet : ∀ w a mid, c.run w = (.ok a, mid) → mid.log = w.log)
    (hg : ∀ w a mid, c.run w = (.ok a, mid) → Discreet sort (g a)) : Discreet sort (c >>= g) := by
  intro w e h he
  rcases hrun : c.run w with ⟨e' | a, mid⟩
  · have hsame := hc w e'
    rw [hrun] at hsame
    rw [run_bind_of_error hrun] at h ⊢
    obtain rfl := Except.error.inj h
    exact hsame rfl he
  · rw [run_bind_of_ok hrun] at h ⊢
    exact (hg w a mid hrun mid e h he).trans (hquiet w a mid hrun)

theorem Mute.bind_discreet {g : α → Call σ ε β} (hc : Mute c)
    (hg : ∀ w a mid, c.run w = (.ok a, mid) → Discreet sort (g a)) : Discreet sort (c >>= g) := by
  refine hc.discreet.bind (fun w a mid h => ?_) hg
  have hsame := hc w
  rwa [h] at hsame

end Discreet

/-! ## Calls of which the end is told -/

section Ending

variable {c : Call σ ε α} {f : ε → ε'}

/-- A call whose end is told fails as it would anyway. -/
theorem run_ending_eq_error {w : World σ} {e' : ε'} (h : ((c.ending f).run w).1 = .error e') :
    ∃ e, (c.run w).1 = .error e ∧ e' = f e := by
  rcases hrun : (c.mapError f).run w with ⟨e | a, w'⟩
  · rw [ending, run_bind_of_error hrun] at h
    obtain rfl := Except.error.inj h
    exact run_mapError_eq_error (congrArg Prod.fst hrun)
  · rw [ending, run_bind_of_ok hrun] at h
    cases h

theorem run_ending_snd (w : World σ) : ((c.ending f).run w).2 = (c.run w).2 := by
  rcases hrun : c.run w with ⟨e | a, w'⟩
  · have hmap : (c.mapError f).run w = (.error (f e), w') := by rw [run_mapError, hrun]; rfl
    rw [ending, run_bind_of_error hmap]
  · have hmap : (c.mapError f).run w = (.ok a, w') := by rw [run_mapError, hrun]; rfl
    rw [ending, run_bind_of_ok hmap]
    rfl

/-- Two calls that fail, both or neither in one sort of ways, have said the same when their ends are
told if they have said the same. -/
theorem log_ending_eq {c' : Call σ ε β} {w v : World σ} {sort : ε' → Prop}
    (hlog : ∀ e e', (c.run w).1 = .error e → (c'.run v).1 = .error e' →
      (sort (f e) ↔ sort (f e')) → (c.run w).2.log = (c'.run v).2.log)
    {e e' : ε'} (h : ((c.ending f).run w).1 = .error e) (h' : ((c'.ending f).run v).1 = .error e')
    (hsort : sort e ↔ sort e') : ((c.ending f).run w).2.log = ((c'.ending f).run v).2.log := by
  obtain ⟨g, hg, rfl⟩ := run_ending_eq_error h
  obtain ⟨g', hg', rfl⟩ := run_ending_eq_error h'
  rw [run_ending_snd, run_ending_snd]
  exact hlog g g' hg hg' hsort

end Ending

theorem Atomic.ending {c : Call σ ε α} (hc : Atomic c) (f : ε → ε') : Atomic (c.ending f) :=
  (hc.mapError f).bind_succeeds fun _ => succeeds_pure _

end Call
end Gatehouse
