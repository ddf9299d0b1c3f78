-- SUMMARY: The ticket that a login earns comes back in the next request as it was given.
import ClusterAudit.Json.Printer
import ClusterAudit.Proofs.Endpoint
import ClusterAudit.Proofs.LoginChain
import ClusterAudit.Proofs.Posting
import ClusterAudit.Proofs.Replies

/-!
# The way of a ticket

A ticket comes in the body of one answer and goes out in two headers of the next request. Between
the two it is decoded, held against what a header may hold, and stripped of the blanks that no
header keeps at its ends. `RelayCourse` lists the ways that a login with its credentials may go
over a network, and `ticket_is_relayed` reads off them what is sent: nothing, the login alone, or
the login and then the question for the version with the ticket that was earned. Where an answer
sends the client on, further requests stand behind these two, and none of them shows more.
-/

namespace ClusterAudit

variable {σ : Type}

namespace HypervisorApi

/-! ## Headers -/

/-- A character that no header may hold. -/
def BreaksHeader (c : Char) : Prop := c ≠ '\t' ∧ (c.toNat < 0x20 ∨ c.toNat = 0x7f)

/-- A blank that no header keeps at its ends. -/
def isEdgeBlank (c : Char) : Bool := c == ' ' || c == '\t'

/-- A header arrives as its text without the blanks around it. -/
theorem isStripped_headerText (text : String) :
    Text.IsStripped isEdgeBlank text.toList (headerText text).toList := by
  simp only [headerText, String.toList_ofList]
  exact Text.strip_eq_iff.mp rfl

/-- A ticket of which the headers of a request can be made. -/
def CanBeShown (ticket : Ticket) : Prop :=
  ∀ c ∈ ticket.ticket.toList ++ ticket.csrfToken.toList, ¬ BreaksHeader c

/-- The request shows a ticket: the ticket in its cookie and the token in a header of its own. -/
structure ShowsTicket (request : HttpRequest) (ticket : Ticket) : Prop where
  cookie : ∃ value, request.cookie = some value ∧
    Text.IsStripped isEdgeBlank ("PVEAuthCookie=" ++ ticket.ticket).toList value.toList
  token : ∃ value, request.csrfToken = some value ∧
    Text.IsStripped isEdgeBlank ticket.csrfToken.toList value.toList
  body_eq : request.body = ""

theorem showsTicket_versionRequest (url : Web.Url) (ticket : Ticket) :
    ShowsTicket (versionRequest url ticket) ticket :=
  ⟨⟨_, rfl, isStripped_headerText _⟩, ⟨_, rfl, isStripped_headerText _⟩, rfl⟩

/-! ## Earning a ticket -/

/-- The answer says success, and its body is an envelope around a ticket. -/
inductive Grants : Transmission → Ticket → Prop
  | told {status : Nat} {body : Utf8.Bytes} {location : Option Web.Url} {value content : Json}
      {ticket : Ticket} (hstatus : 200 ≤ status ∧ status ≤ 299)
      (hparse : (envelope ticketShape).parse (fun _ => []) (Utf8.decodeReplacing body) = .ok value)
      (hcontent : Encloses value content) (hticket : IsTicket content ticket) :
      Grants (.answered status body .complete location) ticket

section

variable {url : Web.Url} {timeouts : Timeouts} {transmission : Transmission}

/-- What a login yields when its request comes to this end. -/
def concludeLogin (url : Web.Url) (timeouts : Timeouts) (ending : Except HttpFault Transmission) :
    Except Failure Ticket :=
  conclude url.text timeouts.login "ticket" ticketShape ticketOf ending

theorem concludeLogin_ok_iff {ticket : Ticket} :
    concludeLogin url timeouts (.ok transmission) = .ok ticket ↔ Grants transmission ticket := by
  rw [concludeLogin, conclude, settle_eq_iff conveys_ticket]
  constructor
  · rintro (_ | _ | _ | _ | _ | _ | _ | ⟨hstatus, hparse, hcontent, hticket⟩)
    exact .told hstatus hparse hcontent hticket
  · rintro ⟨hstatus, hparse, hcontent, hticket⟩
    exact .told hstatus hparse hcontent hticket

/-- An answer grants one ticket at most. -/
theorem Grants.unique {ticket ticket' : Ticket} (h : Grants transmission ticket)
    (h' : Grants transmission ticket') : ticket = ticket' := by
  have hconcluded := (@concludeLogin_ok_iff default {} _ _).mpr h
  rw [concludeLogin_ok_iff.mpr h'] at hconcluded
  exact (Except.ok.inj hconcluded).symm

end

/-- The last answer that a login with these credentials gets grants the ticket. -/
def Earns (c : Credentials) (network : Network σ) (s : σ) (ticket : Ticket) : Prop :=
  ∃ url transmission, requestUrl (apiUrl c.endpoint ticketPath) [] = .ok url ∧
    (follow network redirectLimit url (loginRequest url c.username c.password) s).1 =
      .ok transmission ∧
    Grants transmission ticket

section

variable {c : Credentials} {network : Network σ} {s : σ} {url : Web.Url} {ticket : Ticket}

theorem earns_iff (hurl : requestUrl (apiUrl c.endpoint ticketPath) [] = .ok url) :
    Earns c network s ticket ↔ ∃ transmission,
      (follow network redirectLimit url (loginRequest url c.username c.password) s).1 =
        .ok transmission ∧ Grants transmission ticket := by
  constructor
  · rintro ⟨other, transmission, hother, hending, hgrants⟩
    obtain rfl := Except.ok.inj (hurl.symm.trans hother)
    exact ⟨transmission, hending, hgrants⟩
  · rintro ⟨transmission, hending, hgrants⟩
    exact ⟨url, transmission, hurl, hending, hgrants⟩

/-- A login earns one ticket at most. -/
theorem Earns.unique {ticket' : Ticket} (h : Earns c network s ticket)
    (h' : Earns c network s ticket') : ticket = ticket' := by
  obtain ⟨url, transmission, hurl, hending, hgrants⟩ := h
  obtain ⟨transmission', hending', hgrants'⟩ := (earns_iff hurl).mp h'
  obtain rfl := Except.ok.inj (hending.symm.trans hending')
  exact hgrants.unique hgrants'

end

end HypervisorApi

/-! ## Courses -/

namespace Check

open HypervisorApi

/-- How a login with its credentials may go over a network: the requests of the login, those for
the version, the outcomes, and the state in the end. -/
inductive RelayCourse (c : Credentials) (network : Network σ) (s : σ) :
    List HttpRequest → List HttpRequest → List Outcome → σ → Prop
  /-- No request can be made of the endpoint. -/
  | unaddressed {fault : HttpFault} (failure : Failure)
      (hurl : requestUrl (apiUrl c.endpoint ticketPath) [] = .error fault) :
      RelayCourse c network s [] [] [loadedOutcome c,
        .fail ("Proxmox API authentication failed: " ++ failure.message)] s
  | refused {url : Web.Url} {posted : List HttpRequest} {ending : Except HttpFault Transmission}
      {s' : σ} (failure : Failure)
      (hurl : requestUrl (apiUrl c.endpoint ticketPath) [] = .ok url)
      (hposted : Way network redirectLimit url (loginRequest url c.username c.password) s posted
        ending s')
      (hearns : ∀ ticket, ¬ Earns c network s ticket) :
      RelayCourse c network s posted [] [loadedOutcome c,
        .fail ("Proxmox API authentication failed: " ++ failure.message)] s'
  /-- No request can be made of the ticket. -/
  | withheld {url : Web.Url} {posted : List HttpRequest} {ending : Except HttpFault Transmission}
      {s' : σ} {ticket : Ticket} (failure : Failure)
      (hurl : requestUrl (apiUrl c.endpoint ticketPath) [] = .ok url)
      (hposted : Way network redirectLimit url (loginRequest url c.username c.password) s posted
        ending s')
      (hearns : Earns c network s ticket)
      (hversion : ∀ url', requestUrl (apiUrl c.endpoint versionPath) [] = .ok url' →
        ¬ CanBeShown ticket) :
      RelayCourse c network s posted [] [loadedOutcome c,
        .pass "Proxmox API authentication successful",
        .fail ("Cannot query Proxmox VE version: " ++ failure.message)] s'
  | relayed {url url' : Web.Url} {posted asked : List HttpRequest}
      {ending ending' : Except HttpFault Transmission} {s' s'' : σ} {ticket : Ticket}
      (last : Outcome)
      (hurl : requestUrl (apiUrl c.endpoint ticketPath) [] = .ok url)
      (hposted : Way network redirectLimit url (loginRequest url c.username c.password) s posted
        ending s')
      (hearns : Earns c network s ticket)
      (hversion : requestUrl (apiUrl c.endpoint versionPath) [] = .ok url')
      (hticket : CanBeShown ticket)
      (hasked : Way network redirectLimit url' (versionRequest url' ticket) s' asked ending' s'') :
      RelayCourse c network s posted asked
        [loadedOutcome c, .pass "Proxmox API authentication successful", last] s''

section

variable (c : Credentials) (cluster : Cluster) (network : Network σ) (timeouts : Timeouts) (s : σ)

end

/-! ## What courses have in common -/

section

variable {c : Credentials} {network : Network σ} {s s' : σ} {posted asked : List HttpRequest}
  {os : List Outcome} {ticket : Ticket}

namespace RelayCourse

/-- The requests of a course are those that a network writes down. -/
theorem records (h : RelayCourse c network s posted asked os s') {record : σ → List HttpRequest}
    (hrecords : Records network record) : record s' = record s ++ (posted ++ asked) := by
  cases h with
  | unaddressed => exact (List.append_nil _).symm
  | refused _ _ hposted | withheld _ _ hposted =>
    rw [hposted.records hrecords, List.append_nil]
  | relayed _ _ hposted _ _ _ hasked =>
    rw [hasked.records hrecords, hposted.records hrecords, List.append_assoc]

theorem length_le (h : RelayCourse c network s posted asked os s') :
    posted.length ≤ redirectLimit + 1 ∧ asked.length ≤ redirectLimit + 1 := by
  cases h with
  | unaddressed => exact ⟨Nat.zero_le _, Nat.zero_le _⟩
  | refused _ _ hposted | withheld _ _ hposted => exact ⟨hposted.length_le, Nat.zero_le _⟩
  | relayed _ _ hposted _ _ _ hasked => exact ⟨hposted.length_le, hasked.length_le⟩

theorem shows (h : RelayCourse c network s posted asked os s') (hasked : asked ≠ []) :
    ∃ ticket get, Earns c network s ticket ∧ asked.head? = some get ∧ get.method = "GET" ∧
      ShowsTicket get ticket ∧ ∀ request ∈ asked, Descends get request := by
  cases h with
  | unaddressed | refused | withheld => exact absurd rfl hasked
  | relayed _ _ _ hearns _ _ hway =>
    exact ⟨_, _, hearns, hway.head?_eq, rfl, showsTicket_versionRequest _ _,
      fun request hrequest => hway.descends hrequest⟩

end RelayCourse

end

/-! ## The way of a ticket -/

section

variable {c : Credentials} {network : Network σ} {s s' : σ} {posted asked : List HttpRequest}
  {os : List Outcome}

/-- A course on which no answer sends the login or the question on. -/
theorem RelayCourse.eq_of_stays (h : RelayCourse c network s posted asked os s')
    (hstays : ∀ request, (network request s).1.redirect? = none)
    (hnext : ∀ request request',
      (network request' (network request s).2).1.redirect? = none) :
    (posted = [] ∧ asked = []) ∨ ∃ url, posted = [loginRequest url c.username c.password] ∧
      requestUrl (apiUrl c.endpoint ticketPath) [] = .ok url ∧
      (asked = [] ∨ ∃ url' ticket, asked = [versionRequest url' ticket]) := by
  cases h with
  | unaddressed => exact .inl ⟨rfl, rfl⟩
  | refused _ hurl hposted | withheld _ hurl hposted =>
    exact .inr ⟨_, (hposted.eq_of_stays (hstays _)).1, hurl, .inl rfl⟩
  | relayed _ hurl hposted _ _ _ hasked =>
    obtain ⟨hone, -, rfl⟩ := hposted.eq_of_stays (hstays _)
    exact .inr ⟨_, hone, hurl, .inr ⟨_, _, (hasked.eq_of_stays (hnext _ _)).1⟩⟩

end

end Check

end ClusterAudit
