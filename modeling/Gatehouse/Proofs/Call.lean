import Gatehouse.Call

/-!
# Calls that only read

A call reads a function of the tables if it leaves the tables as they are and ends as the function
says. What the key protector remembers and what the log holds then make no difference.
-/

namespace Gatehouse.Call

variable {σ ε α β : Type}

/-- What a call answers and the tables that it leaves. -/
def seen (c : Call σ ε α) (w : World σ) : Except ε α × Database :=
  ((c.run w).1, (c.run w).2.tables)

/-- A call that leaves the tables as they are and whose outcome is a function of them. -/
def Reads (c : Call σ ε α) (f : Database → Except ε α) : Prop :=
  ∀ w : World σ, (c.run w).1 = f w.tables ∧ (c.run w).2.tables = w.tables

theorem reads_pure (a : α) : Reads (pure a : Call σ ε α) fun _ => .ok a :=
  fun _ => ⟨rfl, rfl⟩

theorem reads_fail (e : ε) : Reads (fail e : Call σ ε α) fun _ => .error e :=
  fun _ => ⟨rfl, rfl⟩

theorem reads_ofExcept (r : Except ε α) : Reads (ofExcept r : Call σ ε α) fun _ => r :=
  fun _ => ⟨rfl, rfl⟩

theorem reads_query (f : Database → Except ε α) : Reads (query f : Call σ ε α) f :=
  fun _ => ⟨rfl, rfl⟩

/-- A call that, on tables of one kind, leaves them as they are and whose outcome is a function of
them. -/
def ReadsOn (P : Database → Prop) (c : Call σ ε α) (f : Database → Except ε α) : Prop :=
  ∀ w : World σ, P w.tables → (c.run w).1 = f w.tables ∧ (c.run w).2.tables = w.tables

section ReadsOn

variable {P : Database → Prop} {f : Database → Except ε α}

theorem Reads.on {c : Call σ ε α} (hc : Reads c f) : ReadsOn P c f :=
  fun w _ => hc w

theorem ReadsOn.bind {c : Call σ ε α} {g : α → Call σ ε β} {h : α → Database → Except ε β}
    (hc : ReadsOn P c f) (hg : ∀ a, ReadsOn P (g a) (h a)) :
    ReadsOn P (c >>= g) fun db => f db >>= fun a => h a db := by
  intro w hw
  obtain ⟨hout, htables⟩ := hc w hw
  rcases hrun : c.run w with ⟨e | a, w'⟩
  · rw [hrun] at hout htables
    have hf : f w.tables = .error e := hout.symm
    rw [run_bind_of_error hrun]
    exact ⟨by simp only [hf]; rfl, htables⟩
  · rw [hrun] at hout htables
    have hf : f w.tables = .ok a := hout.symm
    -- The second part starts from another world, but the tables in it are the same.
    have hsame : w'.tables = w.tables := htables
    obtain ⟨hout', htables'⟩ := hg a w' (by rwa [hsame])
    rw [run_bind_of_ok hrun]
    refine ⟨?_, htables'.trans hsame⟩
    simp only [hf, hout', hsame]
    rfl

theorem ReadsOn.emit_bind {c : Unit → Call σ ε α} (hc : ReadsOn P (c ()) f) (e : Log.Event) :
    ReadsOn P (emit e >>= c) f := by
  intro w hw
  rw [run_bind_of_ok (run_emit e w)]
  exact hc _ hw

theorem ReadsOn.mapError {ε' : Type} {c : Call σ ε α} (hc : ReadsOn P c f) (g : ε → ε') :
    ReadsOn P (c.mapError g) fun db => (f db).mapError g := by
  intro w hw
  rw [run_mapError]
  exact ⟨congrArg (Except.mapError g) (hc w hw).1, (hc w hw).2⟩

/-- A call that reads on all tables reads. -/
theorem ReadsOn.reads {c : Call σ ε α} (hc : ReadsOn (fun _ => True) c f) : Reads c f :=
  fun w => hc w trivial

end ReadsOn

theorem Reads.bind {c : Call σ ε α} {f : Database → Except ε α} {g : α → Call σ ε β}
    {h : α → Database → Except ε β} (hc : Reads c f) (hg : ∀ a, Reads (g a) (h a)) :
    Reads (c >>= g) fun db => f db >>= fun a => h a db :=
  (hc.on.bind fun a => (hg a).on).reads

/-- An event in front of a call makes no difference. -/
theorem Reads.emit_bind {c : Unit → Call σ ε α} {f : Database → Except ε α} (hc : Reads (c ()) f)
    (e : Log.Event) : Reads (emit e >>= c) f :=
  (hc.on.emit_bind e).reads

/-- A failure that is told to the log is the failure. -/
theorem reads_emit_fail (event : Log.Event) (e : ε) :
    Reads (emit event >>= fun _ => fail e : Call σ ε α) fun _ => .error e :=
  Reads.emit_bind (c := fun _ => fail e) (reads_fail e) event

theorem Reads.mapError {ε' : Type} {c : Call σ ε α} {f : Database → Except ε α} (hc : Reads c f)
    (g : ε → ε') : Reads (c.mapError g) fun db => (f db).mapError g :=
  (hc.on.mapError g).reads

theorem Reads.telling {c : Call σ ε α} {f : Database → Except ε α} (hc : Reads c f)
    (tell : ε → List Log.Event) : Reads (c.telling tell) f := by
  intro w
  have hread := hc w
  rcases hrun : c.run w with ⟨e | a, w'⟩
  · rw [hrun] at hread
    rw [run_telling_of_error hrun]
    exact hread
  · rw [hrun] at hread
    rw [run_telling_of_ok hrun]
    exact hread

theorem Reads.attempt {ε' : Type} {c : Call σ ε α} {f : Database → Except ε α} (hc : Reads c f) :
    Reads (c.attempt : Call σ ε' _) fun db => .ok (f db) := by
  intro w
  rw [run_attempt]
  exact ⟨congrArg Except.ok (hc w).1, (hc w).2⟩

theorem Reads.inSpan {c : Call σ ε α} {f : Database → Except ε α} (hc : Reads c f) (s : Log.Span) :
    Reads (c.inSpan s) f :=
  fun w => hc { w with log := [] }

/-! ## Calls that leave the tables as they are -/

/-- A call that leaves the tables as they are, whatever its outcome. -/
def Keeps (c : Call σ ε α) : Prop :=
  ∀ w : World σ, (c.run w).2.tables = w.tables

theorem Reads.keeps {c : Call σ ε α} {f : Database → Except ε α} (hc : Reads c f) : Keeps c :=
  fun w => (hc w).2

theorem keeps_protect (f : σ → Except ε α × σ) : Keeps (protect f) :=
  fun _ => rfl

theorem keeps_emit (e : Log.Event) : Keeps (emit e : Call σ ε Unit) :=
  fun _ => rfl

theorem Keeps.mapError {ε' : Type} {c : Call σ ε α} (hc : Keeps c) (g : ε → ε') :
    Keeps (c.mapError g) := by
  intro w
  rw [run_mapError]
  exact hc w

/-- What follows a call makes no difference to the tables if it leaves them as they are. -/
theorem tables_run_bind {c : Call σ ε α} {g : α → Call σ ε β} (hg : ∀ a, Keeps (g a))
    (w : World σ) : ((c >>= g).run w).2.tables = (c.run w).2.tables := by
  rcases hrun : c.run w with ⟨e | a, w'⟩
  · rw [run_bind_of_error hrun]
  · rw [run_bind_of_ok hrun]
    exact hg a w'

theorem Keeps.bind {c : Call σ ε α} {g : α → Call σ ε β} (hc : Keeps c) (hg : ∀ a, Keeps (g a)) :
    Keeps (c >>= g) := by
  intro w
  rw [tables_run_bind hg]
  exact hc w

/-- A call in two parts succeeds exactly if both parts do, one after the other. -/
theorem run_bind_eq_ok_iff {c : Call σ ε α} {g : α → Call σ ε β} {w w' : World σ} {b : β} :
    (c >>= g).run w = (.ok b, w') ↔
      ∃ a mid, c.run w = (.ok a, mid) ∧ (g a).run mid = (.ok b, w') := by
  rcases hrun : c.run w with ⟨e | a, mid⟩
  · rw [run_bind_of_error hrun]
    constructor
    · intro h
      cases h
    · rintro ⟨a, mid', h, -⟩
      cases h
  · rw [run_bind_of_ok hrun]
    constructor
    · intro h
      exact ⟨a, mid, rfl, h⟩
    · rintro ⟨a', mid', heq, h⟩
      obtain ⟨hok, rfl⟩ := Prod.mk.inj heq
      obtain rfl := Except.ok.inj hok
      exact h

theorem run_mapError_eq_ok_iff {ε' : Type} {c : Call σ ε α} {g : ε → ε'} {w w' : World σ} {a : α} :
    (c.mapError g).run w = (.ok a, w') ↔ c.run w = (.ok a, w') := by
  rw [run_mapError]
  rcases c.run w with ⟨e | a', mid⟩
  · constructor
    · intro h
      cases congrArg Prod.fst h
    · intro h
      cases congrArg Prod.fst h
  · constructor
    · intro h
      obtain ⟨hok, rfl⟩ := Prod.mk.inj h
      obtain rfl := Except.ok.inj hok
      rfl
    · intro h
      obtain ⟨hok, rfl⟩ := Prod.mk.inj h
      obtain rfl := Except.ok.inj hok
      rfl

/-! ## What calls end with -/

/-- Every value that a call can end with has a property. -/
def Yields (c : Call σ ε α) (P : α → Prop) : Prop :=
  ∀ (w : World σ) (a : α), (c.run w).1 = .ok a → P a

theorem yields_pure {P : α → Prop} {a : α} (h : P a) : Yields (pure a : Call σ ε α) P := by
  intro w b hb
  obtain rfl := Except.ok.inj hb
  exact h

/-- What a call in two parts ends with comes from its second part. -/
theorem yields_bind {c : Call σ ε α} {g : α → Call σ ε β} {P : β → Prop}
    (hg : ∀ a, Yields (g a) P) : Yields (c >>= g) P := by
  intro w b h
  rcases hrun : c.run w with ⟨e | a, mid⟩
  · rw [run_bind_of_error hrun] at h
    cases h
  · rw [run_bind_of_ok hrun] at h
    exact hg a mid b h

theorem Yields.inSpan {c : Call σ ε α} {P : α → Prop} (hc : Yields c P) (s : Log.Span) :
    Yields (c.inSpan s) P :=
  fun w => hc { w with log := [] }

/-! ## Calls that fail without a trace -/

/-- A call that cannot fail. -/
def Succeeds (c : Call σ ε α) : Prop :=
  ∀ w : World σ, ∃ a, (c.run w).1 = .ok a

theorem succeeds_pure (a : α) : Succeeds (pure a : Call σ ε α) :=
  fun _ => ⟨a, rfl⟩

theorem succeeds_emit (e : Log.Event) : Succeeds (emit e : Call σ ε Unit) :=
  fun _ => ⟨(), rfl⟩

theorem Succeeds.bind {c : Call σ ε α} {g : α → Call σ ε β} (hc : Succeeds c)
    (hg : ∀ a, Succeeds (g a)) : Succeeds (c >>= g) := by
  intro w
  obtain ⟨a, ha⟩ := hc w
  have hrun : c.run w = (.ok a, (c.run w).2) := Prod.ext ha rfl
  rw [run_bind_of_ok hrun]
  exact hg a _

/-- A call that leaves the tables as they are if it fails. -/
def Atomic (c : Call σ ε α) : Prop :=
  ∀ (w : World σ) (e : ε), (c.run w).1 = .error e → (c.run w).2.tables = w.tables

theorem Keeps.atomic {c : Call σ ε α} (hc : Keeps c) : Atomic c :=
  fun w _ _ => hc w

theorem atomic_transact (f : Database → Except ε Database) :
    Atomic (transact f : Call σ ε Unit) := by
  intro w e h
  cases hf : f w.tables with
  | error e' => rw [run_transact_of_error hf]
  | ok db =>
    rw [run_transact_of_ok hf] at h
    cases h

theorem Atomic.mapError {ε' : Type} {c : Call σ ε α} (hc : Atomic c) (g : ε → ε') :
    Atomic (c.mapError g) := by
  intro w e h
  rw [run_mapError] at h ⊢
  cases hout : (c.run w).1 with
  | error e' => exact hc w e' hout
  | ok a =>
    rw [hout] at h
    cases h

theorem Atomic.telling {c : Call σ ε α} (hc : Atomic c) (tell : ε → List Log.Event) :
    Atomic (c.telling tell) := by
  intro w e h
  rcases hrun : c.run w with ⟨e' | a, mid⟩
  · have hfailed := hc w e'
    rw [hrun] at hfailed
    rw [run_telling_of_error hrun]
    exact hfailed rfl
  · rw [run_telling_of_ok hrun] at h
    cases h

/-- Once a call has changed the tables, nothing may follow that fails. -/
theorem Atomic.bind_succeeds {c : Call σ ε α} {g : α → Call σ ε β} (hc : Atomic c)
    (hg : ∀ a, Succeeds (g a)) : Atomic (c >>= g) := by
  intro w e h
  rcases hrun : c.run w with ⟨e' | a, mid⟩
  · have hfailed := hc w e'
    rw [hrun] at hfailed
    rw [run_bind_of_error hrun]
    exact hfailed rfl
  · obtain ⟨b, hb⟩ := hg a mid
    rw [run_bind_of_ok hrun, hb] at h
    cases h

/-- As long as nothing has been changed, anything may follow that is atomic itself. It is asked of
the values only that the first call ends with. -/
theorem Keeps.bind_atomic {c : Call σ ε α} {g : α → Call σ ε β} (hc : Keeps c)
    (hg : ∀ w a mid, c.run w = (.ok a, mid) → Atomic (g a)) : Atomic (c >>= g) := by
  intro w e h
  rcases hrun : c.run w with ⟨e' | a, mid⟩
  · have hkept := hc w
    rw [hrun] at hkept
    rw [run_bind_of_error hrun]
    exact hkept
  · have hkept : mid.tables = w.tables := by
      have hkept := hc w
      rwa [hrun] at hkept
    rw [run_bind_of_ok hrun] at h ⊢
    exact (hg w a mid hrun mid e h).trans hkept

end Gatehouse.Call
