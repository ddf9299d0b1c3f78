-- SUMMARY: Where the paths of the hypervisor are asked for, once an endpoint is accepted.
import ClusterAudit.Proofs.Credentials
import ClusterAudit.Proofs.Requests
import ClusterAudit.Proofs.Trimming
import ClusterAudit.Proofs.Url

/-!
# Paths at an endpoint

An endpoint is checked as an address, but a path is written after its text. The main
statement, `endpoint_is_addressed`, says when the two agree. If the text does not end in a
control, every request goes to the scheme, the host and the port that were checked; if it
has neither query nor fragment, it goes to the path that was meant. With a query or a
fragment the path is written into these, and the request goes to the endpoint itself.
-/

namespace ClusterAudit

variable {σ : Type}

namespace HypervisorApi

open Web

/-- The segments of a path that the hypervisor knows. -/
def apiSegments (path : String) : List (List Char) :=
  (splitSegments .web path.toList).tail

/-- The paths of the hypervisor. -/
def apiPaths : List String := [ticketPath, versionPath]

theorem pathOf_apiSegments : ∀ path ∈ apiPaths, pathOf (apiSegments path) = path.toList := by
  decide +kernel

theorem isPlainSegment_apiSegments : ∀ path ∈ apiPaths,
    apiSegments path ≠ [] ∧ ∀ s ∈ apiSegments path, isPlainSegment s = true := by
  decide +kernel

theorem apiUrl_eq (endpoint : List Char) (path : String) :
    apiUrl (String.ofList (Credentials.trimSlashes endpoint)) path =
      String.ofList (Credentials.trimSlashes endpoint ++ path.toList) := by
  simp only [apiUrl, String.toList_ofList, Credentials.trimSlashes, Text.dropEndWhile_idem,
    String.ofList_append, String.ofList_toList]

/-! ## Addresses of paths -/

/-- What the address of a path has to do with the text of an endpoint and the address as which
that text was checked. -/
structure IsAddressOf (endpoint : String) (checked : Url) (path : String) (url : Url) : Prop where
  scheme_eq : url.scheme = checked.scheme
  host_eq : url.host = checked.host
  port_eq : url.port = checked.port
  /-- The path is what is asked for if the endpoint has neither query nor fragment. -/
  of_unmarked : (∀ c ∈ endpoint.toList, isMark c = false) →
    path.toList <:+ url.path.toList ∧ url.query = none ∧ url.fragment = none
  /-- Otherwise the path of the endpoint itself is asked for. -/
  of_marked : (∃ c ∈ endpoint.toList, isMark c = true) → url.path = checked.path

/-- A path is written after the text of a checked endpoint. -/
theorem exists_isAddressOf {text : List Char} {checked : Url}
    (hparse : Url.parse (String.ofList text) = .ok checked)
    (hkind : schemeKind checked.scheme = .web)
    (hend : EndsVisible (Credentials.trimSlashes text)) {path : String} (hpath : path ∈ apiPaths) :
    ∃ url, Url.parse (apiUrl (String.ofList (Credentials.trimSlashes text)) path) = .ok url ∧
      IsAddressOf (String.ofList (Credentials.trimSlashes text)) checked path url := by
  obtain ⟨slashes, htext, hslashes⟩ := Text.exists_dropEndWhile_append (· == '/') text
  rw [htext] at hparse
  obtain ⟨left, hmarks, hchecked, hgoes⟩ := exists_tail_of_parse
    (fun c hc => beq_iff_eq.mp (hslashes c hc)) hparse hkind hend
  obtain ⟨hsome, hplain⟩ := isPlainSegment_apiSegments path hpath
  have hpathOf := pathOf_apiSegments path hpath
  have hchars (c : Char) (hc : c ∈ path.toList) : isOuterBlank c = false ∧ isMark c = false :=
    mem_pathOf hplain (hpathOf ▸ hc)
  have hstarts : StartsPath path.toList := by
    rw [← hpathOf]
    exact startsPath_pathOf _
  rw [apiUrl_eq]
  refine ⟨_, hgoes path.toList (fun c hc => (hchars c hc).1) hstarts, rfl, rfl, rfl, fun h => ?_,
    fun h => ?_⟩
  · rw [String.toList_ofList] at h
    have hleft : ∀ c ∈ left ++ path.toList, isMark c = false := by
      refine List.forall_mem_append.mpr ⟨fun c hc => ?_, fun c hc => (hchars c hc).2⟩
      exact Bool.eq_false_iff.mpr fun hmark =>
        Bool.eq_false_iff.mp (h c ((hmarks c hmark).mpr hc)) hmark
    rw [finishUrl_of_unmarked _ _ _ hleft]
    refine ⟨?_, rfl, rfl⟩
    obtain ⟨front, hfront⟩ := exists_readPath_append hplain hsome left
    rw [hpathOf] at hfront
    exact ⟨front, hfront.symm⟩
  · rw [String.toList_ofList] at h
    obtain ⟨c, hc, hmark⟩ := h
    have hleft : ∃ c ∈ left, isMark c = true := ⟨c, (hmarks c hmark).mp hc, hmark⟩
    have hsame := congrArg Url.path hchecked
    rw [path_finishUrl_of_marked _ _ _ hleft] at hsame
    exact (path_finishUrl_of_marked _ _ _ hleft _).trans hsame.symm

/-! ## Requests -/

theorem host_withoutUser (url : Url) : (withoutUser url).host = url.host := by
  unfold withoutUser
  split
  · rfl
  · rename_i authority hauthority
    simp only
    split
    · simp [Url.host, hauthority]
    · rfl

theorem port_withoutUser (url : Url) : (withoutUser url).port = url.port := by
  unfold withoutUser
  split
  · rfl
  · rename_i authority hauthority
    simp only
    split
    · simp [Url.port, hauthority]
    · rfl

theorem withoutUser_eq (url : Url) :
    withoutUser url = { url with authority := (withoutUser url).authority } := by
  unfold withoutUser
  split
  · rfl
  · simp only
    split <;> rfl

/-- User and password in an address do not change where it leads. -/
theorem IsAddressOf.withoutUser {endpoint path : String} {checked url : Url}
    (h : IsAddressOf endpoint checked path url) :
    IsAddressOf endpoint checked path (withoutUser url) where
  scheme_eq := (congrArg Url.scheme (withoutUser_eq url)).trans h.scheme_eq
  host_eq := (host_withoutUser url).trans h.host_eq
  port_eq := (port_withoutUser url).trans h.port_eq
  of_unmarked := by
    rw [withoutUser_eq]
    exact h.of_unmarked
  of_marked := by
    rw [withoutUser_eq]
    exact h.of_marked

/-- A request goes to the address that was asked for. -/
theorem requestUrl_eq_ok {text : String} {headers : List String} {url : Url}
    (h : requestUrl text headers = .ok url) :
    ∃ asked, Url.parse text = .ok asked ∧ url = HypervisorApi.withoutUser asked := by
  unfold requestUrl at h
  split at h
  · cases h
  · rename_i asked hasked
    refine ⟨asked, hasked, ?_⟩
    split at h
    · cases h
    split at h
    · cases h
    simp only at h
    split at h
    · exact (Except.ok.inj h).symm
    · cases h

end HypervisorApi

def HypervisorQuery.endpoint : HypervisorQuery → String
  | .authenticate endpoint _ _ => endpoint
  | .version endpoint _ => endpoint

def HypervisorQuery.path : HypervisorQuery → String
  | .authenticate _ _ _ => HypervisorApi.ticketPath
  | .version _ _ => HypervisorApi.versionPath

namespace HypervisorApi

open Web

theorem path_mem_apiPaths (q : HypervisorQuery) : q.path ∈ apiPaths := by
  cases q
  · exact List.mem_cons_self
  · exact List.mem_cons_of_mem _ List.mem_cons_self

/-- The requests of a query go to its path at its endpoint. -/
theorem exists_url_of_mem_queryRequests {q : HypervisorQuery} {request : HttpRequest}
    (h : request ∈ queryRequests q) :
    ∃ asked, Url.parse (apiUrl q.endpoint q.path) = .ok asked ∧
      request.url = sentUrl (withoutUser asked) := by
  cases q with
  | authenticate endpoint username password =>
    simp only [queryRequests, ticketRequests] at h
    split at h
    · cases h
    · rename_i url hurl
      obtain ⟨asked, hasked, rfl⟩ := requestUrl_eq_ok hurl
      exact ⟨asked, hasked, by rw [List.mem_singleton.mp h]; rfl⟩
  | version endpoint ticket =>
    simp only [queryRequests, versionRequests] at h
    split at h
    · cases h
    · rename_i url hurl
      obtain ⟨asked, hasked, rfl⟩ := requestUrl_eq_ok hurl
      exact ⟨asked, hasked, by rw [List.mem_singleton.mp h]; rfl⟩

/-- The first request that is recorded for a query is its own, and so is every one if no answer
sends the client on. -/
theorem mem_queryRequests_of_recorded {network : Network σ} {timeouts : Timeouts}
    {q : HypervisorQuery} {s : σ} {request : HttpRequest}
    (h : request ∈ (client (recording network) timeouts q (s, [])).2.2)
    (hfirst : request ∈ (client (recording network) timeouts q (s, [])).2.2.head? ∨
      network.IsDirect) : request ∈ queryRequests q := by
  obtain ⟨later, hsent, hnone, hdirect⟩ :=
    exists_records_client (records_recording network) timeouts q (s, [])
  rw [hsent, List.nil_append] at h hfirst
  obtain hfirst | hnetwork := hfirst
  · cases hown : queryRequests q with
    | nil =>
      rw [hown, hnone hown] at h
      exact h
    | cons own rest =>
      rw [hown, List.cons_append, List.head?_cons, Option.mem_some_iff] at hfirst
      exact hfirst ▸ List.mem_cons_self
  · rw [hdirect fun request s => hnetwork request s.1, List.append_nil] at h
    exact h

/-- If an accepted endpoint does not end in a control, the paths of the hypervisor can be written
after it, and every query sends its request to where its path then is. Only an answer can send the
client from there to another address. -/
theorem endpoint_is_addressed {secret : Secret} {c : Credentials}
    (hread : Credentials.ofSecret secret = .ok c) (hend : EndsVisible c.endpoint.toList) :
    ∃ text checked, Credentials.field secret.data Credentials.endpointKey = .ok text ∧
      Url.parse (String.ofList (Text.trim text)) = .ok checked ∧
      (∀ path ∈ apiPaths, ∃ url, Url.parse (apiUrl c.endpoint path) = .ok url ∧
        IsAddressOf c.endpoint checked path url) ∧
      ∀ (network : Network σ) (timeouts : Timeouts) (q : HypervisorQuery) (s : σ),
        q.endpoint = c.endpoint →
        ∀ request ∈ (client (recording network) timeouts q (s, [])).2.2,
          (request ∈ (client (recording network) timeouts q (s, [])).2.2.head? ∨
            network.IsDirect) →
          ∃ url, request.url = sentUrl url ∧ IsAddressOf c.endpoint checked q.path url := by
  obtain ⟨text, _, _, hfield, -, -, hcheck, -⟩ := Credentials.ofData_eq_ok_iff.mp hread
  obtain ⟨checked, hparse, hscheme, -, hendpoint⟩ := Credentials.checkEndpoint_eq_ok_iff.mp hcheck
  have hkind : schemeKind checked.scheme = .web := by
    obtain h | h : checked.scheme = "http" ∨ checked.scheme = "https" := by
      simpa [Credentials.schemes] using hscheme
    · rw [h]; rfl
    · rw [h]; rfl
  have haddress : ∀ path ∈ apiPaths, ∃ url, Url.parse (apiUrl c.endpoint path) = .ok url ∧
      IsAddressOf c.endpoint checked path url := by
    rw [hendpoint, String.toList_ofList] at hend
    intro path hpath
    rw [hendpoint]
    exact exists_isAddressOf hparse hkind hend hpath
  refine ⟨text, checked, hfield, hparse, haddress, ?_⟩
  intro network timeouts q s hq request h hfirst
  have hown := mem_queryRequests_of_recorded h hfirst
  obtain ⟨asked, hasked, hurl⟩ := exists_url_of_mem_queryRequests hown
  obtain ⟨url, hparsed, haddressed⟩ := haddress q.path (path_mem_apiPaths q)
  rw [hq, hparsed] at hasked
  obtain rfl := Except.ok.inj hasked
  exact ⟨_, hurl, haddressed.withoutUser⟩

/-- A secret with credentials for an endpoint. -/
def secretFor (endpoint : String) : Secret :=
  { data := [(Credentials.endpointKey, Utf8.encode endpoint.toList),
      (Credentials.passwordKey, Utf8.encode "secret".toList),
      (Credentials.userKey, Utf8.encode "root@pam".toList)] }

/-- An endpoint with a user, two dots, and slashes and a line break after it. -/
theorem endpoint_is_addressed_dots :
    let endpoint := "http://me@PVE:8006/x/.."
    Credentials.ofSecret (secretFor "http://me@PVE:8006/x/..//\n") =
        .ok ⟨endpoint, "root@pam", "secret"⟩ ∧
      EndsVisible endpoint.toList ∧ (∀ c ∈ endpoint.toList, isMark c = false) ∧
      (∃ checked, ∀ path ∈ apiPaths, ∃ url, Url.parse (apiUrl endpoint path) = .ok url ∧
        IsAddressOf endpoint checked path url) ∧
      (authenticate (recording disconnected) {} endpoint "root@pam" "secret" ((), [])).2.2.map
        HttpRequest.url = ["http://pve:8006/api2/json/access/ticket"] := by
  have hread : Credentials.ofSecret (secretFor "http://me@PVE:8006/x/..//\n") =
      .ok ⟨"http://me@PVE:8006/x/..", "root@pam", "secret"⟩ := by rfl
  have hend : EndsVisible "http://me@PVE:8006/x/..".toList := fun c hc => by
    obtain rfl := Option.some.inj hc
    rfl
  obtain ⟨_, checked, -, -, haddress, -⟩ := endpoint_is_addressed (σ := Unit) hread hend
  have hmarks : ("http://me@PVE:8006/x/..".toList.all fun c => isMark c == false) = true := by
    decide
  exact ⟨hread, hend, fun c hc => eq_of_beq (List.all_eq_true.mp hmarks c hc),
    ⟨checked, haddress⟩, by decide +kernel⟩

/-- Two endpoints that are accepted: with a query, the path of the login is written into the
query; with a control after the port, no address comes of it. -/
theorem endpoint_is_not_addressed :
    Credentials.ofSecret (secretFor "http://pve:8006?x=1") =
        .ok ⟨"http://pve:8006?x=1", "root@pam", "secret"⟩ ∧
      Url.parse (apiUrl "http://pve:8006?x=1" ticketPath) =
        .ok ⟨"http", some ⟨"", "", some (.domain "pve"), some 8006⟩, "/",
          some "x=1/api2/json/access/ticket", none⟩ ∧
      Credentials.ofSecret (secretFor "http://pve:8006\x01") =
        .ok ⟨"http://pve:8006\x01", "root@pam", "secret"⟩ ∧
      Url.parse (apiUrl "http://pve:8006\x01" ticketPath) = .error .invalidPort := by
  refine ⟨?_, ?_, ?_, ?_⟩ <;> rfl

end HypervisorApi

end ClusterAudit
