-- SUMMARY: The way of a request over the addresses to which its answers send the client.
import ClusterAudit.Hypervisor.Client
import ClusterAudit.Proofs.Recording

/-!
# Redirects

A request has a way: one request after the other, as long as the answers send the client on. It
ends with what becomes of the last request, or with an answer that sends the client on once too
often or to an address that is not of the web. By `exists_way` and `Way.follow_eq` the client goes
this way and no other; what is known of the first request of a way and of the later ones is read
off it.
-/

namespace ClusterAudit

namespace HypervisorApi

variable {σ : Type} {network : Network σ} {left : Nat} {url : Web.Url} {request : HttpRequest}
  {s s' : σ} {sent : List HttpRequest} {ending : Except HttpFault Transmission}

/-! ## Ways -/

/-- The way of a request: the requests that are made, how it ends, and the state in the end. -/
inductive Way (network : Network σ) : Nat → Web.Url → HttpRequest → σ → List HttpRequest →
    Except HttpFault Transmission → σ → Prop
  | settled {left : Nat} {url : Web.Url} {request : HttpRequest} {s : σ}
      (hstays : (network request s).1.redirect? = none) :
      Way network left url request s [request] (.ok (network request s).1) (network request s).2
  | exhausted {url : Web.Url} {request : HttpRequest} {s : σ} {redirect : Redirect}
      (hsent : (network request s).1.redirect? = some redirect) :
      Way network 0 url request s [request] (.error (.redirected (sentUrl url)))
        (network request s).2
  | stranded {left : Nat} {url : Web.Url} {request : HttpRequest} {s : σ} {redirect : Redirect}
      (hsent : (network request s).1.redirect? = some redirect)
      (hscheme : redirect.location.scheme ∉ Credentials.schemes) :
      Way network (left + 1) url request s [request]
        (.error (.unbuiltFor redirect.location.text)) (network request s).2
  | further {left : Nat} {url : Web.Url} {request : HttpRequest} {s s' : σ} {redirect : Redirect}
      {sent : List HttpRequest} {ending : Except HttpFault Transmission}
      (hsent : (network request s).1.redirect? = some redirect)
      (hscheme : redirect.location.scheme ∈ Credentials.schemes)
      (hrest : Way network left (withoutUser redirect.location) (sentOn request url redirect)
        (network request s).2 sent ending s') :
      Way network (left + 1) url request s (request :: sent) ending s'

/-- The request comes first, and what becomes of it decides. -/
theorem bind_eq {α : Type} (next : Transmission → StateM σ α) :
    (network request >>= next) s = next (network request s).1 (network request s).2 := rfl

theorem follow_of_stays (hstays : (network request s).1.redirect? = none) :
    follow network left url request s = (.ok (network request s).1, (network request s).2) := by
  cases left <;> simp only [follow, bind_eq, hstays] <;> rfl

theorem follow_zero {redirect : Redirect}
    (hsent : (network request s).1.redirect? = some redirect) :
    follow network 0 url request s =
      (.error (.redirected (sentUrl url)), (network request s).2) := by
  simp only [follow, bind_eq, hsent]
  rfl

theorem follow_succ {redirect : Redirect}
    (hsent : (network request s).1.redirect? = some redirect) :
    follow network (left + 1) url request s =
      if redirect.location.scheme ∈ Credentials.schemes then
        follow network left (withoutUser redirect.location) (sentOn request url redirect)
          (network request s).2
      else (.error (.unbuiltFor redirect.location.text), (network request s).2) := by
  simp only [follow, bind_eq, hsent, List.contains_iff_mem]
  split <;> rfl

/-- The client goes the way of a request. -/
theorem exists_way (network : Network σ) (left : Nat) (url : Web.Url) (request : HttpRequest)
    (s : σ) :
    ∃ sent, Way network left url request s sent (follow network left url request s).1
      (follow network left url request s).2 := by
  -- Each step goes on at another address, with another request and in another state.
  induction left generalizing url request s with
  | zero =>
    cases hsent : (network request s).1.redirect? with
    | none =>
      rw [follow_of_stays hsent]
      exact ⟨_, .settled hsent⟩
    | some redirect =>
      rw [follow_zero hsent]
      exact ⟨_, .exhausted hsent⟩
  | succ left ih =>
    cases hsent : (network request s).1.redirect? with
    | none =>
      rw [follow_of_stays hsent]
      exact ⟨_, .settled hsent⟩
    | some redirect =>
      rw [follow_succ hsent]
      split
      · rename_i hscheme
        obtain ⟨sent, hrest⟩ := ih (withoutUser redirect.location)
          (sentOn request url redirect) (network request s).2
        exact ⟨_, .further hsent hscheme hrest⟩
      · rename_i hscheme
        exact ⟨_, .stranded hsent hscheme⟩

/-! ## Requests of a way -/

/-- A later request of a way: it repeats the first one, or only fetches, and shows nothing that the
first one does not show. -/
structure Descends (first request : HttpRequest) : Prop where
  method : request.method = first.method ∨ request.method = "GET"
  body : request.body = first.body ∨ request.body = ""
  cookie : request.cookie = first.cookie ∨ request.cookie = none
  csrfToken_eq : request.csrfToken = first.csrfToken

theorem Descends.refl (request : HttpRequest) : Descends request request :=
  ⟨.inl rfl, .inl rfl, .inl rfl, rfl⟩

theorem Descends.trans {first second third : HttpRequest} (h : Descends first second)
    (h' : Descends second third) : Descends first third where
  method := h'.method.elim (fun heq => heq ▸ h.method) .inr
  body := h'.body.elim (fun heq => heq ▸ h.body) .inr
  cookie := h'.cookie.elim (fun heq => heq ▸ h.cookie) .inr
  csrfToken_eq := h'.csrfToken_eq.trans h.csrfToken_eq

theorem descends_sentOn (request : HttpRequest) (url : Web.Url) (redirect : Redirect) :
    Descends request (sentOn request url redirect) := by
  have hcookie (shown : Bool) :
      (if shown then request.cookie else none) = request.cookie ∨
        (if shown then request.cookie else none) = none := by
    cases shown
    · exact .inr rfl
    · exact .inl rfl
  unfold sentOn
  split
  · exact ⟨.inl rfl, .inl rfl, hcookie _, rfl⟩
  · exact ⟨.inr rfl, .inr rfl, hcookie _, rfl⟩

namespace Way

theorem follow_eq (h : Way network left url request s sent ending s') :
    follow network left url request s = (ending, s') := by
  induction h with
  | settled hstays => exact follow_of_stays hstays
  | exhausted hsent => exact follow_zero hsent
  | stranded hsent hscheme => rw [follow_succ hsent, if_neg hscheme]
  | further hsent hscheme _ ih => rw [follow_succ hsent, if_pos hscheme, ih]

theorem eq_of_stays (h : Way network left url request s sent ending s')
    (hstays : (network request s).1.redirect? = none) :
    sent = [request] ∧ ending = .ok (network request s).1 ∧ s' = (network request s).2 := by
  cases h with
  | settled => exact ⟨rfl, rfl, rfl⟩
  | exhausted hsent | stranded hsent | further hsent => cases hstays.symm.trans hsent

theorem head?_eq (h : Way network left url request s sent ending s') :
    sent.head? = some request := by
  cases h <;> rfl

theorem length_le (h : Way network left url request s sent ending s') :
    sent.length ≤ left + 1 := by
  induction h with
  | settled | exhausted | stranded => exact Nat.succ_le_succ (Nat.zero_le _)
  | further _ _ _ ih => exact Nat.succ_le_succ ih

/-- The requests of a way are those that a network writes down. -/
theorem records (h : Way network left url request s sent ending s')
    {record : σ → List HttpRequest} (hrecords : Records network record) :
    record s' = record s ++ sent := by
  induction h with
  | settled | exhausted | stranded => exact hrecords _ _
  | further _ _ _ ih => rw [ih, hrecords, List.append_assoc, List.singleton_append]

theorem descends (h : Way network left url request s sent ending s') {other : HttpRequest}
    (hother : other ∈ sent) : Descends request other := by
  induction h with
  | settled | exhausted | stranded =>
    obtain rfl := List.mem_singleton.mp hother
    exact .refl _
  | further _ _ _ ih =>
    obtain rfl | hother := List.mem_cons.mp hother
    · exact .refl _
    · exact (descends_sentOn _ _ _).trans (ih hother)

end Way

/-! ## Networks without redirects -/

/-- No answer of the network sends the client on. -/
def Network.IsDirect (network : Network σ) : Prop :=
  ∀ request s, (network request s).1.redirect? = none

end HypervisorApi

end ClusterAudit
