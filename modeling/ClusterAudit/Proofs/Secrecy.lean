-- SUMMARY: The password of the hypervisor changes nothing that an audit tells.
import ClusterAudit.Proofs.Isolation
import ClusterAudit.Proofs.Requests

/-!
# Secrecy of the password

Two worlds differ in the password that the secret holds. The audits of both are
compared question by question: they ask the same, but for the login, whose
password differs, and they are answered the same by a hypervisor that does not
look at passwords. Since every section runs as it does alone, the two audits need
not even be run in the same way.
-/

namespace ClusterAudit

variable {σ α β : Type}

/-! ## Probes in two worlds -/

namespace Probe

/-- From related states of two worlds, two probes get to the same value through related states. -/
inductive Alike (env env' : Environment σ) (R : σ → σ → Prop) : Probe α → Probe α → Prop
  | done (value : α) : Alike env env' R (.done value) (.done value)
  | ask {q q' : Question} {next : q.Reply → Probe α} {next' : q'.Reply → Probe α} :
      (∀ s s', R s s' → R (env.answer q s).2 (env'.answer q' s').2) →
      (∀ s s', R s s' → Alike env env' R (next (env.answer q s).1) (next' (env'.answer q' s').1)) →
      Alike env env' R (.ask q next) (.ask q' next')
  | wait {milliseconds : Nat} {next next' : Probe α} :
      Alike env env' R next next' →
      Alike env env' R (.wait milliseconds next) (.wait milliseconds next')

variable {env env' : Environment σ} {R : σ → σ → Prop}

theorem Alike.run {p p' : Probe α} (h : p.Alike env env' R p') {s s' : σ} (hs : R s s') :
    (p.run env s).value = (p'.run env' s').value ∧
      R (p.run env s).state (p'.run env' s').state := by
  induction h generalizing s s' with
  | done value => exact ⟨rfl, hs⟩
  | ask hafter _ ih => exact ih s s' hs (hafter s s' hs)
  | wait _ ih => exact ih hs

theorem Alike.bind {p p' : Probe α} {k k' : α → Probe β} (h : p.Alike env env' R p')
    (hk : ∀ value, (k value).Alike env env' R (k' value)) :
    (p.bind k).Alike env env' R (p'.bind k') := by
  induction h with
  | done value => exact hk value
  | ask hafter _ ih => exact .ask hafter ih
  | wait _ ih => exact .wait ih

theorem alike_mapM {f : α → Probe β} {as : List α} (h : ∀ a ∈ as, (f a).Alike env env' R (f a)) :
    (as.mapM f).Alike env env' R (as.mapM f) := by
  induction as with
  | nil => exact .done []
  | cons a as ih =>
    rw [List.mapM_cons]
    refine Alike.bind (h a List.mem_cons_self) fun value => ?_
    exact Alike.bind (ih fun b hb => h b (List.mem_cons_of_mem a hb)) fun _ => .done _

/-- Two worlds answer a question alike. -/
def SameAnswer (env env' : Environment σ) (R : σ → σ → Prop) (q : Question) : Prop :=
  ∀ s s', R s s' →
    (env.answer q s).1 = (env'.answer q s').1 ∧ R (env.answer q s).2 (env'.answer q s').2

theorem alike_ask {q : Question} {next next' : q.Reply → Probe α}
    (hq : SameAnswer env env' R q) (hnext : ∀ reply, (next reply).Alike env env' R (next' reply)) :
    (ask q next).Alike env env' R (ask q next') := by
  refine .ask (fun s s' hs => (hq s s' hs).2) fun s s' hs => ?_
  rw [(hq s s' hs).1]
  exact hnext _

/-- A probe is alike to itself if both worlds answer all its questions alike. -/
theorem alike_of_asksOnly {p : Probe α} (h : p.AsksOnly (SameAnswer env env' R)) :
    p.Alike env env' R p := by
  induction p with
  | done value => exact .done value
  | ask q next ih => exact alike_ask h.1 fun reply => ih reply (h.2 reply)
  | wait milliseconds next ih => exact .wait (ih h)

end Probe

theorem Section.alike {env env' : Environment σ} {R : σ → σ → Prop} {s : Section}
    (h : ∀ c ∈ s.checks, c.probe.Alike env env' R c.probe) :
    s.probe.Alike env env' R s.probe :=
  Probe.alike_mapM fun c hc => (h c hc).bind fun _ => .done _

/-! ## Secrets -/

/-- The secret holds a password, which is text and not blank. -/
def Secret.HasPassword (secret : Secret) : Prop :=
  ∃ key bytes text, secret.data.find? (·.1 == Credentials.passwordKey) = some (key, bytes) ∧
    Utf8.decode bytes = .ok text ∧ Text.isBlankText text = false

/-- Two secrets with passwords that hold the same otherwise. -/
structure Secret.SameButPassword (secret secret' : Secret) : Prop where
  others : ∀ key, key ≠ Credentials.passwordKey →
    secret.data.find? (·.1 == key) = secret'.data.find? (·.1 == key)
  password : secret.HasPassword
  password' : secret'.HasPassword

namespace Credentials

theorem field_password {secret : Secret} (h : secret.HasPassword) :
    ∃ text, field secret.data passwordKey = .ok text := by
  obtain ⟨key, bytes, text, hfind, hdecode, hblank⟩ := h
  exact ⟨text, by simp [field, hfind, hdecode, hblank]⟩

theorem field_other {secret secret' : Secret} (h : secret.SameButPassword secret') {key : String}
    (hkey : key ≠ passwordKey) : field secret.data key = field secret'.data key := by
  simp only [field, h.others key hkey]

/-- Credentials that differ in the password alone, or that cannot be read for the same reason. -/
def ReadAlike (read read' : Except Failure Credentials) : Prop :=
  (∃ failure, read = .error failure ∧ read' = .error failure) ∨
  ∃ endpoint username password password', read = .ok ⟨endpoint, username, password⟩ ∧
    read' = .ok ⟨endpoint, username, password'⟩

theorem readAlike_ofSecret {secret secret' : Secret} (h : secret.SameButPassword secret') :
    ReadAlike (ofSecret secret) (ofSecret secret') := by
  obtain ⟨password, hpassword⟩ := field_password h.password
  obtain ⟨password', hpassword'⟩ := field_password h.password'
  simp only [ofSecret, ofData, hpassword, hpassword',
    field_other h (show endpointKey ≠ passwordKey by decide),
    field_other h (show userKey ≠ passwordKey by decide)]
  cases field secret'.data endpointKey with
  | error failure => exact .inl ⟨failure, rfl, rfl⟩
  | ok endpoint =>
    cases field secret'.data userKey with
    | error failure => exact .inl ⟨failure, rfl, rfl⟩
    | ok username =>
      simp only [bind, Except.bind]
      cases checkEndpoint (Text.trim endpoint) with
      | error failure => exact .inl ⟨failure, rfl, rfl⟩
      | ok endpoint => exact .inr ⟨endpoint, _, _, _, rfl, rfl⟩

end Credentials

/-! ## Worlds that differ in a password -/

/-- The query with the password left out. -/
def HypervisorQuery.withoutPassword : HypervisorQuery → HypervisorQuery
  | .authenticate endpoint username _ => .authenticate endpoint username ""
  | q => q

namespace Hypervisor

/-- The state in which some queries leave a hypervisor. -/
def after (hypervisor : Hypervisor σ) (s : σ) (history : List HypervisorQuery) : σ :=
  history.foldl (fun s q => (hypervisor q s).2) s

/-- No reply of a hypervisor depends on the passwords, neither on one that it is asked with nor on
those that it was asked with before. -/
structure IgnoresPassword (hypervisor : Hypervisor σ) (s : σ) : Prop where
  authenticate : ∀ (history history' : List HypervisorQuery)
    (endpoint username password password' : String),
    history.map HypervisorQuery.withoutPassword = history'.map HypervisorQuery.withoutPassword →
    (hypervisor (.authenticate endpoint username password) (hypervisor.after s history)).1 =
      (hypervisor (.authenticate endpoint username password') (hypervisor.after s history')).1
  version : ∀ (history history' : List HypervisorQuery) (endpoint : String) (ticket : Ticket),
    history.map HypervisorQuery.withoutPassword = history'.map HypervisorQuery.withoutPassword →
    (hypervisor (.version endpoint ticket) (hypervisor.after s history)).1 =
      (hypervisor (.version endpoint ticket) (hypervisor.after s history')).1

/-- Related states give a hypervisor's queries the same replies, whatever the passwords. -/
structure IsBlind (hypervisor : Hypervisor σ) (R : σ → σ → Prop) : Prop where
  authenticate : ∀ (endpoint username password password' : String) (s s' : σ), R s s' →
    (hypervisor (.authenticate endpoint username password) s).1 =
      (hypervisor (.authenticate endpoint username password') s').1 ∧
    R (hypervisor (.authenticate endpoint username password) s).2
      (hypervisor (.authenticate endpoint username password') s').2
  version : ∀ (endpoint : String) (ticket : Ticket) (s s' : σ), R s s' →
    (hypervisor (.version endpoint ticket) s).1 = (hypervisor (.version endpoint ticket) s').1 ∧
    R (hypervisor (.version endpoint ticket) s).2 (hypervisor (.version endpoint ticket) s').2

/-- Two states to which a hypervisor gets by queries that differ in their passwords. -/
def SameHistory (hypervisor : Hypervisor σ) (start s s' : σ) : Prop :=
  ∃ history history' : List HypervisorQuery,
    history.map HypervisorQuery.withoutPassword = history'.map HypervisorQuery.withoutPassword ∧
    s = hypervisor.after start history ∧ s' = hypervisor.after start history'

theorem after_append (hypervisor : Hypervisor σ) (s : σ) (history : List HypervisorQuery)
    (q : HypervisorQuery) :
    hypervisor.after s (history ++ [q]) = (hypervisor q (hypervisor.after s history)).2 := by
  simp [after]

theorem IgnoresPassword.isBlind {hypervisor : Hypervisor σ} {start : σ}
    (h : hypervisor.IgnoresPassword start) : hypervisor.IsBlind (hypervisor.SameHistory start) where
  authenticate := by
    rintro endpoint username password password' s s' ⟨history, history', hsame, rfl, rfl⟩
    refine ⟨h.authenticate history history' endpoint username password password' hsame,
      history ++ [.authenticate endpoint username password],
      history' ++ [.authenticate endpoint username password'], ?_, ?_, ?_⟩
    · simp [hsame, HypervisorQuery.withoutPassword]
    · rw [after_append]
    · rw [after_append]
  version := by
    rintro endpoint ticket s s' ⟨history, history', hsame, rfl, rfl⟩
    refine ⟨h.version history history' endpoint ticket hsame,
      history ++ [.version endpoint ticket], history' ++ [.version endpoint ticket], ?_, ?_, ?_⟩
    · simp [hsame]
    · rw [after_append]
    · rw [after_append]

end Hypervisor

/-- Two clusters that answer alike, but for the password in one secret. -/
structure Cluster.SameButPassword (cluster cluster' : Cluster) (place : Check.SecretPlace) :
    Prop where
  others : ∀ q, q ≠ .secret place.ns place.name → cluster q = cluster' q
  secret : cluster (.secret place.ns place.name) = cluster' (.secret place.ns place.name) ∨
    ∃ secret secret' : Secret, cluster (.secret place.ns place.name) = .ok (some secret) ∧
      cluster' (.secret place.ns place.name) = .ok (some secret') ∧
      secret.SameButPassword secret'

/-! ## The login -/

section Audits

variable {cluster cluster' : Cluster} {hypervisor : Hypervisor σ} {R : σ → σ → Prop}

namespace Check

theorem readAlike_credentialsOf {place : SecretPlace} (h : cluster.SameButPassword cluster' place) :
    Credentials.ReadAlike (credentialsOf place (cluster (.secret place.ns place.name)))
      (credentialsOf place (cluster' (.secret place.ns place.name))) := by
  obtain heq | ⟨secret, secret', hsecret, hsecret', hsame⟩ := h.secret
  · rw [heq]
    cases credentialsOf place (cluster' (.secret place.ns place.name)) with
    | error failure => exact .inl ⟨failure, rfl, rfl⟩
    | ok c => exact .inr ⟨c.endpoint, c.username, c.password, c.password, rfl, rfl⟩
  · rw [hsecret, hsecret']
    exact Credentials.readAlike_ofSecret hsame

theorem alike_logIn (hblind : hypervisor.IsBlind R)
    (endpoint username password password' : String) :
    (logIn ⟨endpoint, username, password⟩).Alike ⟨cluster, hypervisor⟩ ⟨cluster', hypervisor⟩ R
      (logIn ⟨endpoint, username, password'⟩) := by
  have hauthenticate := hblind.authenticate endpoint username password password'
  refine .ask (fun s s' hs => (hauthenticate s s' hs).2) fun s s' hs => ?_
  simp only [Environment.answer_hypervisor, (hauthenticate s s' hs).1]
  cases (hypervisor (.authenticate endpoint username password') s').1 with
  | error failure => exact .done _
  | ok ticket =>
    refine Probe.alike_ask (hblind.version endpoint ticket) fun version => ?_
    cases version <;> exact .done _

/-- The login tells the same of two secrets that differ in their passwords. -/
theorem alike_hypervisor {place : SecretPlace} (hblind : hypervisor.IsBlind R)
    (hclusters : cluster.SameButPassword cluster' place) :
    (Check.hypervisor place).probe.Alike ⟨cluster, hypervisor⟩ ⟨cluster', hypervisor⟩ R
      (Check.hypervisor place).probe := by
  refine .ask (fun s s' hs => hs) fun s s' hs => ?_
  simp only [Environment.answer_cluster, Probe.bind_def, Probe.done_bind]
  obtain ⟨failure, h, h'⟩ | ⟨endpoint, username, password, password', h, h'⟩ :=
    readAlike_credentialsOf hclusters
  · rw [h, h']
    exact .done _
  · rw [h, h']
    exact (alike_logIn hblind endpoint username password password').bind fun _ => .done _

end Check

theorem sameAnswer_of_isPlain {place : Check.SecretPlace}
    (hclusters : cluster.SameButPassword cluster' place) {q : Question} (hq : q.IsPlain) :
    Probe.SameAnswer ⟨cluster, hypervisor⟩ ⟨cluster', hypervisor⟩ R q := by
  match q, hq with
  | .cluster q, hq =>
    have hne : q ≠ .secret place.ns place.name := by
      rintro rfl
      exact hq
    exact fun s s' hs => ⟨hclusters.others q hne, hs⟩

/-- All sections of an audit tell the same of two clusters that differ in the password. -/
theorem Config.section_alike {config : Config} (hblind : hypervisor.IsBlind R)
    (hclusters : cluster.SameButPassword cluster' config.secretPlace) {place : Nat} {sec : Section}
    (hsec : config.sections[place]? = some sec) :
    sec.probe.Alike ⟨cluster, hypervisor⟩ ⟨cluster', hypervisor⟩ R sec.probe := by
  by_cases hplace : place = loginPlace
  · subst hplace
    obtain rfl : config.loginSection = sec :=
      Option.some.inj (config.sections_login.symm.trans hsec)
    refine Section.alike ?_
    simp only [Config.loginSection, List.forall_mem_singleton]
    exact Check.alike_hypervisor hblind hclusters
  · exact Probe.alike_of_asksOnly ((config.asksOnly_plain hsec hplace).mono
      fun q hq => sameAnswer_of_isPlain hclusters hq)

/-- Two audits whose worlds differ in the password tell the same, however each of them is run. -/
theorem Config.run_sameButTimes {config : Config} (hblind : hypervisor.IsBlind R)
    (hclusters : cluster.SameButPassword cluster' config.secretPlace) {s s' : σ} (hs : R s s')
    (mode mode' : Mode) (clock clock' : Clock) :
    (mode.run ⟨cluster, hypervisor⟩ clock config.sections s).SameButTimes
      (mode'.run ⟨cluster', hypervisor⟩ clock' config.sections s') ∧
    R (mode.run ⟨cluster, hypervisor⟩ clock config.sections s).state
      (mode'.run ⟨cluster', hypervisor⟩ clock' config.sections s').state := by
  have hrun := config.run_isolated cluster hypervisor mode clock s
  have hrun' := config.run_isolated cluster' hypervisor mode' clock' s'
  have halone : config.sections.map (Section.alone ⟨cluster, hypervisor⟩ s) =
      config.sections.map (Section.alone ⟨cluster', hypervisor⟩ s') := by
    refine List.map_congr_left fun sec hsec => ?_
    obtain ⟨place, hplace⟩ := List.getElem?_of_mem hsec
    have hvalue := ((Config.section_alike hblind hclusters hplace).run hs).1
    simp only [Section.alone, hvalue]
  constructor
  · exact hrun.tells.sameButTimes (halone ▸ hrun'.tells)
  · -- Only the login gets to the hypervisor, so the states are those after the login alone.
    have hlogin := hrun.alike Config.loginPlace _ config.sections_login rfl
    have hlogin' := hrun'.alike Config.loginPlace _ config.sections_login rfl
    rw [← hlogin, ← hlogin']
    exact ((Config.section_alike hblind hclusters config.sections_login).run hs).2

end Audits

/-! ## Requests -/

/-- The request without what a login posts. -/
def HttpRequest.withoutForm (request : HttpRequest) : HttpRequest :=
  if request.method = "POST" then { request with body := "" } else request

namespace HypervisorApi

/-- The script with the requests so far, without what their logins posted. -/
def Script.withoutForms (script : Script) : Script :=
  { script with sent := script.sent.map HttpRequest.withoutForm }

theorem withoutForm_loginRequest (url : Web.Url) (username password password' : String) :
    (loginRequest url username password).withoutForm =
      (loginRequest url username password').withoutForm := by
  simp only [loginRequest, HttpRequest.withoutForm, if_true]

/-- A script answers by what is ahead, whatever the requests were. -/
theorem scripted_withoutForms {request request' : HttpRequest} {s s' : Script}
    (hrequest : request.withoutForm = request'.withoutForm)
    (hs : s.withoutForms = s'.withoutForms) :
    (scripted request s).1 = (scripted request' s').1 ∧
      (scripted request s).2.withoutForms = (scripted request' s').2.withoutForms := by
  obtain ⟨ahead, sent⟩ := s
  obtain ⟨ahead', sent'⟩ := s'
  simp only [Script.withoutForms, Script.mk.injEq] at hs
  obtain ⟨rfl, hsent⟩ := hs
  cases ahead with
  | nil => simp [scripted, Script.withoutForms, hrequest, hsent]
  | cons next ahead => simp [scripted, Script.withoutForms, hrequest, hsent]

theorem withoutForm_eq_iff {request request' : HttpRequest} :
    request.withoutForm = request'.withoutForm ↔
      { request with body := "" } = { request' with body := "" } ∧
        (request.method ≠ "POST" → request.body = request'.body) := by
  simp only [HttpRequest.withoutForm]
  by_cases hmethod : request.method = "POST" <;> by_cases hmethod' : request'.method = "POST" <;>
    grind [HttpRequest]

/-- Where an answer sends the client, requests that differ in their forms still do in no more. -/
theorem withoutForm_sentOn {request request' : HttpRequest}
    (h : request.withoutForm = request'.withoutForm) (url : Web.Url) (redirect : Redirect) :
    (sentOn request url redirect).withoutForm = (sentOn request' url redirect).withoutForm := by
  obtain ⟨hothers, hbody⟩ := withoutForm_eq_iff.mp h
  simp only [HttpRequest.mk.injEq] at hothers
  refine withoutForm_eq_iff.mpr ?_
  cases hrepeats : redirect.repeats <;> simp_all [sentOn]

/-- A request goes the same way over the same answers as one that differs in its form. -/
theorem Way.withoutForms {left : Nat} {url : Web.Url} {request request' : HttpRequest}
    {s s' end' : Script} {sent : List HttpRequest} {ending : Except HttpFault Transmission}
    (h : Way scripted left url request' s' sent ending end')
    (hrequest : request.withoutForm = request'.withoutForm)
    (hs : s.withoutForms = s'.withoutForms) :
    (follow scripted left url request s).1 = ending ∧
      (follow scripted left url request s).2.withoutForms = end'.withoutForms := by
  -- The script answers both alike, so the other client takes each step of this way.
  induction h generalizing request s with
  | settled hstays =>
    obtain ⟨htransmission, hafter⟩ := scripted_withoutForms hrequest hs
    rw [follow_of_stays (htransmission ▸ hstays)]
    exact ⟨congrArg Except.ok htransmission, hafter⟩
  | exhausted hsent =>
    obtain ⟨htransmission, hafter⟩ := scripted_withoutForms hrequest hs
    rw [follow_zero (htransmission ▸ hsent)]
    exact ⟨rfl, hafter⟩
  | stranded hsent hscheme =>
    obtain ⟨htransmission, hafter⟩ := scripted_withoutForms hrequest hs
    rw [follow_succ (htransmission ▸ hsent), if_neg hscheme]
    exact ⟨rfl, hafter⟩
  | further hsent hscheme _ ih =>
    obtain ⟨htransmission, hafter⟩ := scripted_withoutForms hrequest hs
    rw [follow_succ (htransmission ▸ hsent), if_pos hscheme]
    exact ih (withoutForm_sentOn hrequest _ _) hafter

theorem exchange_withoutForms (url : Web.Url) {request request' : HttpRequest} (timeout : Nat)
    (what : String) (data : Json.Shape) {s s' : Script}
    (hrequest : request.withoutForm = request'.withoutForm)
    (hs : s.withoutForms = s'.withoutForms) :
    (exchange scripted url request timeout what data s).1 =
      (exchange scripted url request' timeout what data s').1 ∧
    (exchange scripted url request timeout what data s).2.withoutForms =
      (exchange scripted url request' timeout what data s').2.withoutForms := by
  obtain ⟨sent, hway⟩ := exists_way scripted redirectLimit url request' s'
  obtain ⟨hending, hafter⟩ := hway.withoutForms hrequest hs
  rw [exchange_eq, exchange_eq, hending]
  exact ⟨rfl, hafter⟩

/-- The client over a script tells nothing of the passwords that it was given. -/
theorem isBlind_client (timeouts : Timeouts) :
    (client scripted timeouts).IsBlind fun s s' => s.withoutForms = s'.withoutForms where
  authenticate := by
    intro endpoint username password password' s s' hs
    simp only [client, authenticate]
    cases requestUrl (apiUrl endpoint ticketPath) [] with
    | error fault => exact ⟨rfl, hs⟩
    | ok url =>
      obtain ⟨hreply, hafter⟩ := exchange_withoutForms url timeouts.login "ticket" ticketShape
        (withoutForm_loginRequest url username password password') hs
      exact ⟨congrArg (Except.map ticketOf) hreply, hafter⟩
  version := by
    intro endpoint ticket s s' hs
    simp only [client, version]
    cases requestUrl (apiUrl endpoint versionPath)
      ["PVEAuthCookie=" ++ ticket.ticket, ticket.csrfToken] with
    | error fault => exact ⟨rfl, hs⟩
    | ok url =>
      obtain ⟨hreply, hafter⟩ := exchange_withoutForms url timeouts.version "version" versionShape
        (Eq.refl (versionRequest url ticket).withoutForm) hs
      exact ⟨congrArg (Except.map versionOf) hreply, hafter⟩

end HypervisorApi

/-! ## Audits -/

theorem Check.shown_credentialsOf {cluster cluster' : Cluster} {place : Check.SecretPlace}
    (h : cluster.SameButPassword cluster' place) :
    (Check.credentialsOf place (cluster (.secret place.ns place.name))).map Credentials.shown =
      (Check.credentialsOf place (cluster' (.secret place.ns place.name))).map
        Credentials.shown := by
  obtain ⟨failure, h, h'⟩ | ⟨endpoint, username, password, password', h, h'⟩ :=
    Check.readAlike_credentialsOf h
  · rw [h, h']
  · rw [h, h']
    rfl

/-- The password in the secret changes neither what an audit tells and reports, nor how the
credentials look in a log, nor any request but for what the login posts, however the two audits
are run. -/
theorem password_is_not_told {cluster cluster' : Cluster} (config : Config)
    (h : cluster.SameButPassword cluster' config.secretPlace) (mode mode' : Mode)
    (clock clock' : Clock) :
    (∀ (hypervisor : Hypervisor σ) (s : σ), hypervisor.IgnoresPassword s →
      (mode.run ⟨cluster, hypervisor⟩ clock config.sections s).SameButTimes
        (mode'.run ⟨cluster', hypervisor⟩ clock' config.sections s)) ∧
    (Check.credentialsOf config.secretPlace
        (cluster (.secret config.providerNs config.credentialsSecret))).map Credentials.shown =
      (Check.credentialsOf config.secretPlace
        (cluster' (.secret config.providerNs config.credentialsSecret))).map Credentials.shown ∧
    ∀ (timeouts : HypervisorApi.Timeouts) (script : HypervisorApi.Script),
      let client := HypervisorApi.client HypervisorApi.scripted timeouts
      let run := mode.run ⟨cluster, client⟩ clock config.sections script
      let run' := mode'.run ⟨cluster', client⟩ clock' config.sections script
      run.SameButTimes run' ∧ run.state.withoutForms = run'.state.withoutForms := by
  refine ⟨fun hypervisor s hignores => ?_, Check.shown_credentialsOf h, fun timeouts script => ?_⟩
  · have hs : hypervisor.SameHistory s s s := ⟨[], [], rfl, rfl, rfl⟩
    exact (Config.run_sameButTimes hignores.isBlind h hs mode mode' clock clock').1
  · exact Config.run_sameButTimes (HypervisorApi.isBlind_client timeouts) h rfl mode mode' clock
      clock'

/-- A secret with credentials. -/
def Secret.ofPassword (password : String) : Secret :=
  { data := [(Credentials.endpointKey, Utf8.encode "https://pve.example.com:8006".toList),
      (Credentials.passwordKey, Utf8.encode password.toList),
      (Credentials.userKey, Utf8.encode "root@pam".toList)] }

/-- A cluster with one secret, which gives nothing else. -/
def Cluster.onlySecret (place : Check.SecretPlace) (secret : Secret) : Cluster
  | .secret ns name => if ns = place.ns ∧ name = place.name then .ok (some secret) else .ok none
  | _ => .error (.unavailable "down")

/-- Two audits in different ways that post two passwords to a hypervisor that never answers. -/
theorem password_is_not_told_unanswered :
    let config : Config := {}
    let cluster := Cluster.onlySecret config.secretPlace (.ofPassword "one")
    let cluster' := Cluster.onlySecret config.secretPlace (.ofPassword "other")
    let constant := Hypervisor.constant (.ok ⟨"ticket", "token"⟩) (.ok {})
    let client := HypervisorApi.client HypervisorApi.scripted {}
    let run := (Mode.concurrent [7, 0, 7]).run ⟨cluster, client⟩ default config.sections
      ⟨[.silent], []⟩
    let run' := Mode.sequential.run ⟨cluster', client⟩ default config.sections ⟨[.silent], []⟩
    cluster.SameButPassword cluster' config.secretPlace ∧ constant.IgnoresPassword () ∧
    ((Mode.concurrent [7, 0, 7]).run ⟨cluster, constant⟩ default config.sections ()).SameButTimes
      (Mode.sequential.run ⟨cluster', constant⟩ default config.sections ()) ∧
    run.state.sent.map HttpRequest.body = ["username=root%40pam&password=one"] ∧
    run'.state.sent.map HttpRequest.body = ["username=root%40pam&password=other"] ∧
    run.state.withoutForms = run'.state.withoutForms := by
  intro config cluster cluster' constant client run run'
  have hsecrets : (Secret.ofPassword "one").SameButPassword (.ofPassword "other") := by
    refine ⟨fun key hkey => ?_, ⟨_, _, _, rfl, rfl, rfl⟩, ⟨_, _, _, rfl, rfl, rfl⟩⟩
    have hpassword : (Credentials.passwordKey == key) = false := beq_eq_false_iff_ne.mpr hkey.symm
    simp only [Secret.ofPassword, List.find?_cons, hpassword]
  have hclusters : cluster.SameButPassword cluster' config.secretPlace := by
    refine ⟨fun q hq => ?_, .inr ⟨_, _, rfl, rfl, hsecrets⟩⟩
    cases q with
    | secret ns name =>
      have hplace : ¬ (ns = config.secretPlace.ns ∧ name = config.secretPlace.name) := by
        rintro ⟨rfl, rfl⟩
        exact hq rfl
      simp only [cluster, cluster', Cluster.onlySecret, if_neg hplace]
    | _ => rfl
  have hconstant : constant.IgnoresPassword () := ⟨fun _ _ _ _ _ _ _ => rfl, fun _ _ _ _ _ => rfl⟩
  have htold := password_is_not_told (σ := Unit) config hclusters (.concurrent [7, 0, 7])
    .sequential default default
  exact ⟨hclusters, hconstant, htold.1 constant () hconstant, rfl, rfl,
    (htold.2.2 {} ⟨[.silent], []⟩).2⟩

end ClusterAudit
