-- SUMMARY: Which requests a question to the hypervisor sends over the network.
import ClusterAudit.Proofs.Probe
import ClusterAudit.Proofs.Redirects

/-!
# Requests on the network

A question to the hypervisor makes one request, if that can be built, and goes its way. So a network
that writes down what is sent over it has the requests of the questions in their order, each with
those that follow from redirects behind it, and no others.
-/

namespace ClusterAudit

open HypervisorApi

variable {σ α : Type}

namespace HypervisorApi

/-! ## Questions -/

/-- The request for a ticket, unless it cannot be built. -/
def ticketRequests (endpoint username password : String) : List HttpRequest :=
  match requestUrl (apiUrl endpoint ticketPath) [] with
  | .error _ => []
  | .ok url => [loginRequest url username password]

/-- The request for the version, unless it cannot be built. -/
def versionRequests (endpoint : String) (ticket : Ticket) : List HttpRequest :=
  match requestUrl (apiUrl endpoint versionPath)
      ["PVEAuthCookie=" ++ ticket.ticket, ticket.csrfToken] with
  | .error _ => []
  | .ok url => [versionRequest url ticket]

/-- The request with which a question begins, unless it cannot be built. -/
def queryRequests : HypervisorQuery → List HttpRequest
  | .authenticate endpoint username password => ticketRequests endpoint username password
  | .version endpoint ticket => versionRequests endpoint ticket

theorem exchange_eq (network : Network σ) (url : Web.Url) (request : HttpRequest) (timeout : Nat)
    (what : String) (data : Json.Shape) (s : σ) :
    exchange network url request timeout what data s =
      (do
        let transmission ←
          (follow network redirectLimit url request s).1.mapError fun fault => .query (.http fault)
        let text ← (answerText url.text timeout transmission).mapError .query
        readEnvelope what data text,
      (follow network redirectLimit url request s).2) :=
  rfl

/-- A question fails without a request, or it goes the way of one. -/
theorem client_way (network : Network σ) (timeouts : Timeouts) (q : HypervisorQuery) (s : σ) :
    (queryRequests q = [] ∧ ∃ failure, client network timeouts q s = (.error failure, s)) ∨
      ∃ url request sent ending, queryRequests q = [request] ∧
        Way network redirectLimit url request s sent ending (client network timeouts q s).2 := by
  cases q with
  | authenticate endpoint username password =>
    simp only [client, authenticate, queryRequests, ticketRequests]
    cases requestUrl (apiUrl endpoint ticketPath) [] with
    | error fault => exact .inl ⟨rfl, _, rfl⟩
    | ok url =>
      obtain ⟨sent, hway⟩ :=
        exists_way network redirectLimit url (loginRequest url username password) s
      exact .inr ⟨url, _, sent, _, rfl, hway⟩
  | version endpoint ticket =>
    simp only [client, version, queryRequests, versionRequests]
    cases requestUrl (apiUrl endpoint versionPath)
      ["PVEAuthCookie=" ++ ticket.ticket, ticket.csrfToken] with
    | error fault => exact .inl ⟨rfl, _, rfl⟩
    | ok url =>
      obtain ⟨sent, hway⟩ := exists_way network redirectLimit url (versionRequest url ticket) s
      exact .inr ⟨url, _, sent, _, rfl, hway⟩

/-! ## Networks that write down -/

/-- A question makes its request, and behind it others only if an answer sends the client on. -/
theorem exists_records_client {network : Network σ} {record : σ → List HttpRequest}
    (h : Records network record) (timeouts : Timeouts) (q : HypervisorQuery) (s : σ) :
    ∃ later, record (client network timeouts q s).2 = record s ++ (queryRequests q ++ later) ∧
      (queryRequests q = [] → later = []) ∧ (network.IsDirect → later = []) := by
  obtain ⟨hnone, failure, hclient⟩ | ⟨url, request, sent, ending, hone, hway⟩ :=
    client_way network timeouts q s
  · exact ⟨[], by rw [hclient, hnone]; exact (List.append_nil _).symm, fun _ => rfl, fun _ => rfl⟩
  · obtain ⟨later, rfl⟩ := List.head?_eq_some_iff.mp hway.head?_eq
    refine ⟨later, ?_, fun hnone => ?_, fun hdirect => ?_⟩
    · rw [hway.records h, hone]
      rfl
    · cases hone.symm.trans hnone
    · exact (List.cons.inj (hway.eq_of_stays (hdirect _ _)).1).2

end HypervisorApi

/-! ## Probes -/

/-- What a network has written down stays as it is while a probe runs. -/
theorem Probe.exists_records_run {network : Network σ} {record : σ → List HttpRequest}
    (h : Records network record) (cluster : Cluster) (timeouts : Timeouts) (p : Probe α) (s : σ) :
    ∃ later, record (p.run ⟨cluster, client network timeouts⟩ s).state = record s ++ later := by
  induction p generalizing s with
  | done value => exact ⟨[], (List.append_nil _).symm⟩
  | ask q next ih =>
    cases q with
    | cluster q =>
      simp only [run_ask, Environment.answer_cluster]
      exact ih (cluster q) s
    | hypervisor q =>
      simp only [run_ask, Environment.answer_hypervisor, Ran.after]
      obtain ⟨front, hfront, -⟩ := exists_records_client h timeouts q s
      obtain ⟨rest, hrest⟩ := ih (client network timeouts q s).1 (client network timeouts q s).2
      rw [hrest, hfront, List.append_assoc]
      exact ⟨_, rfl⟩
  | wait milliseconds next ih => exact ih s

end ClusterAudit
