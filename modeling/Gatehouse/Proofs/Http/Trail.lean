import Gatehouse.Http.Redirect
import Gatehouse.Http.Status
import Mathlib.Data.List.Basic

/-!
# The trail of a request

A network is made to keep every request that it carries, with what came of it. A client that is
referred on and on leaves a trail of such exchanges, each of which leads to the request of the next.
All of the trail but its last exchange is counted against how often the client lets itself be
referred on; the last one decides the outcome.
-/

namespace Gatehouse.Http

variable {σ : Type}

/-! ## Redirected requests -/

namespace Request

variable {r next : Request} {response : Response}

/-- A success refers to nothing. -/
theorem redirected?_of_isSuccess (h : Status.isSuccess response.status = true) :
    r.redirected? response = none := by
  have hrange : 200 ≤ response.status ∧ response.status < 300 := by
    simpa [Status.isSuccess] using h
  have hcodes : ∀ code ∈ repeatCodes ++ lookCodes, response.status ≠ code := by
    intro code hcode heq
    have hbeyond : ∀ code ∈ repeatCodes ++ lookCodes, 300 ≤ code := by decide
    have hcode' := hbeyond code hcode
    omega
  have hrepeat : repeatCodes.contains response.status = false := by
    simpa using fun hmem => hcodes _ (List.mem_append_left _ hmem) rfl
  have hlook : lookCodes.contains response.status = false := by
    simpa using fun hmem => hcodes _ (List.mem_append_right _ hmem) rfl
  rw [redirected?, hrepeat, hlook]
  cases response.location <;> simp

/-- A client that is referred elsewhere makes its request there, or only looks there. -/
theorem eq_moved_or_looking (h : r.redirected? response = some next) :
    ∃ url, next = r.moved url ∨ next = r.looking url := by
  obtain ⟨location, -, h⟩ := Option.bind_eq_some_iff.1 h
  refine ⟨Url.join r.url location, ?_⟩
  dsimp only at h
  split at h
  · cases h
  · split at h
    · exact .inl (Option.some.inj h).symm
    · split at h
      · exact .inr (Option.some.inj h).symm
      · cases h

/-- Credentials are not shown to another server. -/
theorem header?_authorization_moved {url : String} (h : Url.server url ≠ Url.server r.url) :
    (r.moved url).header? "authorization" = none := by
  rw [header?, moved, List.lookup_eq_none_iff]
  intro m hm
  rcases List.mem_append.1 hm with hm | hm
  · obtain ⟨-, hkept⟩ := List.mem_filter.1 hm
    rw [withheld, if_neg h] at hkept
    rw [bne_iff_ne]
    rintro heq
    rw [← heq] at hkept
    cases hkept
  · rw [referer] at hm
    split at hm
    · cases hm
    · rw [List.mem_singleton.1 hm]
      rfl

end Request

/-! ## Networks that keep a record -/

/-- A request and what came of it. -/
structure Exchange where
  request : Request
  answer : Except Unanswered Response

/-- A network that keeps the requests that it carries, the first one first. -/
def Network.recorded (net : Network σ) : Network (σ × List Exchange) where
  token s := ((net.token s.1).1, (net.token s.1).2, s.2)
  send r s := ((net.send r s.1).1, (net.send r s.1).2, s.2 ++ [⟨r, (net.send r s.1).1⟩])

namespace Network

variable (net : Network σ) {r : Request} {s : σ} {log : List Exchange}

theorem token_recorded :
    net.recorded.token (s, log) = ((net.token s).1, (net.token s).2, log) := rfl

theorem send_recorded : net.recorded.send r (s, log) =
    ((net.send r s).1, (net.send r s).2, log ++ [⟨r, (net.send r s).1⟩]) := rfl

theorem request_of_usable {net : Network σ} (h : r.problem? = Option.none) :
    net.request r s = net.send r s := by
  rw [request, h]

theorem request_of_problem {net : Network σ} {causes : Unanswered} (h : r.problem? = some causes) :
    net.request r s = (.error causes, s) := by
  rw [request, h]

end Network

/-! ## Trails -/

/-- Exchanges of which each leads to the request of the next one: the earlier ones, and the last. -/
inductive Trail (leads : Exchange → Request → Prop) :
    Request → List Exchange → Exchange → Prop where
  | last {r : Request} (answer : Except Unanswered Response) : Trail leads r [] ⟨r, answer⟩
  | cons {r next : Request} {earlier : List Exchange} {last : Exchange}
      {answer : Except Unanswered Response} (hleads : leads ⟨r, answer⟩ next)
      (rest : Trail leads next earlier last) : Trail leads r (⟨r, answer⟩ :: earlier) last

namespace Trail

variable {leads : Exchange → Request → Prop} {r : Request} {earlier : List Exchange}
  {last : Exchange}

/-- The first exchange of a trail is of the request that it starts from. -/
theorem request_of_mem_head? (h : Trail leads r earlier last) :
    ∀ e ∈ (earlier ++ [last]).head?, e.request = r := by
  cases h with
  | last answer => exact fun e he => Option.some.inj he ▸ rfl
  | cons hleads rest => exact fun e he => Option.some.inj he ▸ rfl

/-- What holds of the first request, and of each request that one leads to of which it holds, holds
of all requests of a trail. -/
theorem forall_request {P : Request → Prop} (h : Trail leads r earlier last) (hr : P r)
    (hleads : ∀ e next, leads e next → P e.request → P next) :
    ∀ e ∈ earlier ++ [last], P e.request := by
  induction h with
  | last answer => exact List.forall_mem_singleton.2 hr
  | cons hnext _ ih => exact List.forall_mem_cons.2 ⟨hr, ih (hleads _ _ hnext hr)⟩

/-- Each exchange before the last one leads on. -/
theorem leads_of_mem (h : Trail leads r earlier last) :
    ∀ e ∈ earlier, ∃ next, leads e next := by
  induction h with
  | last answer => exact nofun
  | cons hnext _ ih => exact List.forall_mem_cons.2 ⟨⟨_, hnext⟩, ih⟩

end Trail

/-! ## Being referred on -/

/-- An exchange whose response refers to another request. -/
def Refers (e : Exchange) (next : Request) : Prop :=
  ∃ response, e.answer = .ok response ∧ e.request.redirected? response = some next

/-- What a client that has been referred to the last exchange ends with: its response, unless that
refers on. -/
def EndsWith (last : Exchange) (outcome : Except Unanswered Response) : Prop :=
  ((∀ next, ¬ Refers last next) ∧ outcome = last.answer) ∨
    (∃ next, Refers last next) ∧ ∃ causes, outcome = .error causes

theorem endsWith_error (r : Request) (causes : Unanswered) :
    EndsWith ⟨r, .error causes⟩ (.error causes) := by
  refine .inl ⟨?_, rfl⟩
  rintro next ⟨_, hanswer, -⟩
  cases hanswer

theorem endsWith_of_redirected?_eq_none {r : Request} {response : Response}
    (h : r.redirected? response = none) : EndsWith ⟨r, .ok response⟩ (.ok response) := by
  refine .inl ⟨?_, rfl⟩
  rintro next ⟨_, ⟨⟩, hnext⟩
  rw [h] at hnext
  cases hnext

namespace Network

section Follow

variable {net : Network σ} {left : Nat} {r next : Request} {response : Response}
  {causes : Unanswered} {s mid : σ}

theorem follow_of_error (h : net.request r s = (.error causes, mid)) :
    net.follow left r s = (.error causes, mid) := by
  rw [follow.eq_def, h]

theorem follow_of_stays (h : net.request r s = (.ok response, mid))
    (hstays : r.redirected? response = .none) : net.follow left r s = (.ok response, mid) := by
  rw [follow.eq_def, h]
  simp only [hstays]

theorem follow_zero_of_refers (h : net.request r s = (.ok response, mid))
    (hnext : r.redirected? response = some next) :
    net.follow 0 r s = (.error r.tooManyRedirects, mid) := by
  rw [follow.eq_def, h]
  simp only [hnext]

theorem follow_succ_of_refers (h : net.request r s = (.ok response, mid))
    (hnext : r.redirected? response = some next) :
    net.follow (left + 1) r s = net.follow left next mid := by
  rw [follow.eq_def, h]
  simp only [hnext]

end Follow

variable (net : Network σ) (left : Nat) {r : Request}

/-- What following a request leaves in the record: a trail, with no more exchanges before the last
one than the client lets itself be referred on. The outcome is that without a record. -/
def Follows (r : Request) (s : σ) (log : List Exchange) : Prop :=
  ∃ earlier last, Trail Refers r earlier last ∧ earlier.length ≤ left ∧
    net.recorded.follow left r (s, log) =
      ((net.follow left r s).1, (net.follow left r s).2, log ++ (earlier ++ [last])) ∧
    EndsWith last (net.follow left r s).1

variable {net left}

/-- A request after which the client goes nowhere else leaves its own exchange. -/
theorem follows_of_ends {answer outcome : Except Unanswered Response} {s mid : σ}
    {log : List Exchange} (h : r.problem? = .none) (hsent : net.send r s = (answer, mid))
    (hrun : ∀ {τ : Type} (net : Network τ) (s mid : τ), net.request r s = (answer, mid) →
      net.follow left r s = (outcome, mid)) (hends : EndsWith ⟨r, answer⟩ outcome) :
    net.Follows left r s log := by
  have hplain : net.follow left r s = (outcome, mid) :=
    hrun net s mid ((request_of_usable h).trans hsent)
  have hrecorded : net.recorded.send r (s, log) = (answer, mid, log ++ [⟨r, answer⟩]) := by
    rw [send_recorded, hsent]
  refine ⟨[], ⟨r, answer⟩, .last answer, Nat.zero_le left, ?_, ?_⟩
  · rw [hrun _ _ _ ((request_of_usable h).trans hrecorded), hplain]
    rfl
  · rwa [hplain]

/-- A request that can be made leaves a trail. -/
theorem follows (net : Network σ) (left : Nat) (h : r.problem? = .none) (s : σ)
    (log : List Exchange) : net.Follows left r s log := by
  -- Each exchange that refers on counts down, and stands before those that follow it.
  induction left generalizing r s log with
  | zero =>
    rcases hsent : net.send r s with ⟨causes | response, mid⟩
    · exact follows_of_ends h hsent (fun _ _ _ => follow_of_error) (endsWith_error r causes)
    · cases hnext : r.redirected? response with
      | none =>
        exact follows_of_ends h hsent (fun _ _ _ hrun => follow_of_stays hrun hnext)
          (endsWith_of_redirected?_eq_none hnext)
      | some next =>
        exact follows_of_ends h hsent (fun _ _ _ hrun => follow_zero_of_refers hrun hnext)
          (.inr ⟨⟨next, response, rfl, hnext⟩, _, rfl⟩)
  | succ left ih =>
    rcases hsent : net.send r s with ⟨causes | response, mid⟩
    · exact follows_of_ends h hsent (fun _ _ _ => follow_of_error) (endsWith_error r causes)
    · cases hnext : r.redirected? response with
      | none =>
        exact follows_of_ends h hsent (fun _ _ _ hrun => follow_of_stays hrun hnext)
          (endsWith_of_redirected?_eq_none hnext)
      | some next =>
        have hrefers : Refers ⟨r, .ok response⟩ next := ⟨response, rfl, hnext⟩
        cases hproblem : next.problem? with
        | some causes =>
          -- To an address that is not of the web the client does not go.
          refine follows_of_ends h hsent (fun net s mid hrun => ?_)
            (.inr ⟨⟨next, hrefers⟩, causes, rfl⟩)
          rw [follow_succ_of_refers hrun hnext]
          exact follow_of_error (request_of_problem hproblem)
        | none =>
          obtain ⟨earlier, last, htrail, hlength, hrest, hends⟩ :=
            ih hproblem mid (log ++ [⟨r, .ok response⟩])
          have hrecorded : net.recorded.send r (s, log) =
              (.ok response, mid, log ++ [⟨r, .ok response⟩]) := by
            rw [send_recorded, hsent]
          have hplain : net.follow (left + 1) r s = net.follow left next mid :=
            follow_succ_of_refers ((request_of_usable h).trans hsent) hnext
          refine ⟨_, last, .cons hrefers htrail, Nat.succ_le_succ hlength, ?_, hplain ▸ hends⟩
          rw [follow_succ_of_refers ((request_of_usable h).trans hrecorded) hnext, hrest, hplain,
            List.append_assoc]
          rfl

end Network

end Gatehouse.Http
