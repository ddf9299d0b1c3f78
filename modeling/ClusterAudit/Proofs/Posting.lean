-- SUMMARY: The user and the password in a secret are posted unchanged.
import ClusterAudit.Check.Login
import ClusterAudit.Proofs.Base64
import ClusterAudit.Proofs.Credentials
import ClusterAudit.Proofs.Form
import ClusterAudit.Proofs.Requests
import ClusterAudit.Resource.Decode

/-!
# Credentials on their way

From a secret to the hypervisor, a user and a password pass through base64, UTF-8 and the
encoding of forms. Each of these is read back by its own lemma; here they are put
together: what the first request posts is what the secret holds, but for the blanks around
the user.
-/

namespace ClusterAudit

open HypervisorApi

variable {σ : Type}

/-! ## Secrets -/

namespace Resource

theorem decodeBytes_text (bytes : Utf8.Bytes) : decodeBytes (Base64.text bytes) = .ok bytes := by
  rw [decodeBytes, Base64.utf8_text, Base64.decode_encode]

def entry? (value : Json) (key : String) : Option Json :=
  (value.member? "data").bind (Json.member? key)

/-- An entry in base64 is found as the bytes that were encoded. -/
theorem find?_secret {value : Json} {key : String} {bytes : Utf8.Bytes}
    (h : entry? value key = some (.string (Base64.text bytes))) :
    (secret value).data.find? (·.1 == key) = some (key, bytes) := by
  obtain ⟨data, hdata, hentry⟩ := Option.bind_eq_some_iff.mp h
  obtain ⟨members, rfl⟩ : ∃ members, data = .object members := by
    cases data with
    | object members => exact ⟨members, rfl⟩
    | _ => simp [Json.member?] at hentry
  obtain ⟨⟨name, found⟩, hfind, hfound⟩ := Option.map_eq_some_iff.mp hentry
  obtain rfl : found = .string (Base64.text bytes) := hfound
  have hname := List.find?_some hfind
  simp only [beq_iff_eq] at hname
  subst hname
  have hnames : ((fun entry : String × Utf8.Bytes => entry.1 == name) ∘ secretEntry) =
      fun member => member.1 == name := by
    funext ⟨other, old⟩
    cases old <;> rfl
  rw [secret, hdata]
  simp only [List.find?_map, hnames, hfind, Option.map_some, secretEntry, decodeBytes_text]
  rfl

end Resource

namespace Credentials

/-- A secret, as it is written, holds these texts in base64. -/
structure WrittenIn (value : Json) (endpoint username password : String) : Prop where
  endpoint_eq : Resource.entry? value endpointKey =
    some (.string (Base64.text (Utf8.encode endpoint.toList)))
  username_eq : Resource.entry? value userKey =
    some (.string (Base64.text (Utf8.encode username.toList)))
  password_eq : Resource.entry? value passwordKey =
    some (.string (Base64.text (Utf8.encode password.toList)))

/-- A field that is read has the text that was written. -/
theorem field_secret {value : Json} {key : String} {text : String} {read : List Char}
    (h : Resource.entry? value key = some (.string (Base64.text (Utf8.encode text.toList))))
    (hread : field (Resource.secret value).data key = .ok read) : read = text.toList := by
  obtain ⟨found, hfound, hdecode, -⟩ := field_eq_ok_iff.mp hread
  rw [Resource.find?_secret h, Option.some.injEq] at hfound
  subst hfound
  rw [Utf8.decode_encode, Except.ok.injEq] at hdecode
  exact hdecode.symm

/-- The user is read without the blanks around it, and the password as it is. -/
theorem WrittenIn.ofSecret {value : Json} {endpoint username password : String}
    (h : WrittenIn value endpoint username password) {c : Credentials}
    (hread : ofSecret (Resource.secret value) = .ok c) :
    c.username = String.ofList (Text.trim username.toList) ∧ c.password = password := by
  obtain ⟨_, user, word, -, huser, hword, -, husername, hpassword⟩ := ofData_eq_ok_iff.mp hread
  obtain rfl := field_secret h.username_eq huser
  obtain rfl := field_secret h.password_eq hword
  exact ⟨husername, hpassword.trans (String.ofList_toList)⟩

/-- The least that is written for a secret with credentials. -/
def written (endpoint username password : String) : Json :=
  let entry (key text : String) : String × Json :=
    (key, .string (Base64.text (Utf8.encode text.toList)))
  .object [("data", .object
    [entry endpointKey endpoint, entry userKey username, entry passwordKey password])]

theorem writtenIn_written (endpoint username password : String) :
    WrittenIn (written endpoint username password) endpoint username password := ⟨rfl, rfl, rfl⟩

end Credentials

/-! ## The first request -/

namespace Check

variable {place : SecretPlace} {cluster : Cluster} {c : Credentials}

/-- Without credentials nothing is asked of the hypervisor. -/
theorem state_of_unread {failure : Failure}
    (h : credentialsOf place (cluster (.secret place.ns place.name)) = .error failure)
    (peer : Hypervisor σ) (s : σ) : ((hypervisor place).probe.run ⟨cluster, peer⟩ s).state = s := by
  simp only [hypervisor, Probe.cluster, Probe.bind_def, Probe.ask_bind, Probe.done_bind,
    Probe.run_ask, Environment.answer_cluster, h]
  rfl

/-- With credentials the login is all that is asked of the hypervisor. -/
theorem run_of_read (h : credentialsOf place (cluster (.secret place.ns place.name)) = .ok c)
    (peer : Hypervisor σ) (s : σ) :
    let ran := (hypervisor place).probe.run ⟨cluster, peer⟩ s
    let login := (logIn c).run ⟨cluster, peer⟩ s
    ran.state = login.state ∧ ran.value = loadedOutcome c :: login.value := by
  simp only [hypervisor, Probe.cluster, Probe.bind_def, Probe.ask_bind, Probe.done_bind,
    Probe.run_ask, Environment.answer_cluster, h, Ran.after, Probe.run_bind, Ran.afterAll]
  exact ⟨rfl, rfl⟩

/-- The requests of a login begin with the one that posts the credentials, if there are any. -/
theorem head?_requests_logIn (network : Network σ) (timeouts : Timeouts) (s : σ) :
    ((logIn c).run ⟨cluster, client (recording network) timeouts⟩ (s, [])).state.2.head? =
      (ticketRequests c.endpoint c.username c.password).head? := by
  have hrecords := records_recording network
  simp only [logIn, Probe.hypervisor, Probe.bind_def, Probe.ask_bind, Probe.done_bind,
    Probe.run_ask, Environment.answer_hypervisor, Ran.after]
  obtain ⟨hnone, failure, hfailed⟩ | ⟨url, request, posted, ending, hone, hway⟩ :=
    client_way (recording network) timeouts (.authenticate c.endpoint c.username c.password) (s, [])
  · rw [hfailed, show ticketRequests c.endpoint c.username c.password = [] from hnone]
    rfl
  · obtain ⟨later, hlater⟩ := Probe.exists_records_run hrecords cluster timeouts _ _
    rw [hlater, hway.records hrecords, List.nil_append, List.head?_append, hway.head?_eq,
      show ticketRequests c.endpoint c.username c.password = [request] from hone]
    rfl

end Check

/-- The pairs of names and values, as bytes, that the form of a login holds. -/
def loginPairs (username password : List Char) : List (Utf8.Bytes × Utf8.Bytes) :=
  [(Utf8.encode "username".toList, Utf8.encode username),
    (Utf8.encode "password".toList, Utf8.encode password)]

theorem formDecode_loginRequest (url : Web.Url) (username password : String) :
    Web.formDecode (loginRequest url username password).body.toList =
      loginPairs username.toList password.toList :=
  Web.formDecode_formEncode _

/-- The first request of a login, if there is one, posts a form that is read as the user in the
secret, without the blanks around it, and the password in the secret, as it is. -/
theorem login_posts_credentials {value : Json} {endpoint username password : String}
    (h : Credentials.WrittenIn value endpoint username password) {place : Check.SecretPlace}
    {cluster : Cluster}
    (hcluster : cluster (.secret place.ns place.name) = .ok (some (Resource.secret value)))
    (network : Network σ) (timeouts : Timeouts) (s : σ) {request : HttpRequest}
    (hrequest : request ∈ ((Check.hypervisor place).probe.run
      ⟨cluster, client (recording network) timeouts⟩ (s, [])).state.2.head?) :
    request.method = "POST" ∧ request.contentType = some "application/x-www-form-urlencoded" ∧
      Web.formDecode request.body.toList =
        loginPairs (Text.trim username.toList) password.toList := by
  cases hread : Check.credentialsOf place (cluster (.secret place.ns place.name)) with
  | error failure =>
    rw [Check.state_of_unread hread] at hrequest
    cases hrequest
  | ok c =>
    obtain ⟨husername, hpassword⟩ : c.username = String.ofList (Text.trim username.toList) ∧
        c.password = password := by
      rw [hcluster] at hread
      exact h.ofSecret hread
    rw [(Check.run_of_read hread _ _).1, Check.head?_requests_logIn, ticketRequests] at hrequest
    cases hurl : requestUrl (apiUrl c.endpoint ticketPath) [] with
    | error fault =>
      rw [hurl] at hrequest
      cases hrequest
    | ok url =>
      rw [hurl, List.head?_cons, Option.mem_some_iff] at hrequest
      subst hrequest
      refine ⟨rfl, rfl, ?_⟩
      rw [formDecode_loginRequest, husername, hpassword, String.toList_ofList]

/-- A user with a line break after it, and a password of marks, blanks and an umlaut. -/
theorem login_posts_credentials_marks :
    let password := "a&b=c+d% \n\u00fc "
    let secret := Resource.secret (Credentials.written "http://pve:8006/" "root@pam\n" password)
    let cluster : Cluster
      | .secret _ _ => .ok (some secret)
      | _ => .error (.unavailable "down")
    let sent := ((Check.hypervisor ⟨"default", "login"⟩).probe.run
      ⟨cluster, client (recording disconnected) {}⟩ ((), [])).state.2
    sent.map HttpRequest.body =
        ["username=root%40pam&password=a%26b%3Dc%2Bd%25+%0A%C3%BC+"] ∧
      ∀ request ∈ sent.head?, request.method = "POST" ∧
        request.contentType = some "application/x-www-form-urlencoded" ∧
        Web.formDecode request.body.toList =
          loginPairs (Text.trim "root@pam\n".toList) password.toList := by
  refine ⟨by decide +kernel, fun request hrequest => ?_⟩
  exact login_posts_credentials (Credentials.writtenIn_written "http://pve:8006/" "root@pam\n" _)
    rfl disconnected {} () hrequest

end ClusterAudit
