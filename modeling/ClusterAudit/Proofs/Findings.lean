-- SUMMARY: What an audit finds out on its way, and how each of its checks goes on from there.
import ClusterAudit.Proofs.Isolation
import ClusterAudit.Proofs.LoginChain
import Mathlib.Data.List.Forall2
import Mathlib.Tactic.SplitIfs

/-!
# Findings

Most checks of an audit ask one question and judge the answer. Three of them go on from what they
find: pods are asked for in a namespace that was found, and the hypervisor is asked once the
credentials for it were read. `Findings` reads these turning points off the exchanges of a run.
`Course` says what the checks of a section ask and which of their outcomes only inform, and
`Run.Follows.course` gives it for each section of an audit.

A cluster that does not change gives the same answers to every run, so there the findings are known
beforehand: they are `Config.findings`.
-/

namespace ClusterAudit

/-! ## Findings -/

namespace Exchange

/-- Whether a namespace was looked up and found. -/
def isFound : Exchange → Bool
  | .cluster (.namespaceNamed _) (.ok (some _)) => true
  | _ => false

/-- Whether objects of a kind were listed and there were none. -/
def isEmptyList : Exchange → Bool
  | .cluster (.customObjects _) (.ok []) => true
  | _ => false

def ticket? (e : Exchange) : Option Ticket := e.granted?.map Prod.snd

end Exchange

/-- What an audit finds out that decides how it goes on. -/
structure Findings where
  /-- The namespace of the controllers was found. -/
  controllers : Bool
  /-- The namespace of the provider was found. -/
  provider : Bool
  /-- The managed clusters were listed, and there are none. -/
  unmanaged : Bool
  /-- What was read from the secret, if it was found and could be read. -/
  credentials : Option Credentials
  /-- What the hypervisor gave for the credentials. -/
  ticket : Option Ticket
deriving DecidableEq, Repr

/-- What the exchanges of an audit brought, each at its place. -/
def Findings.of (es : List (Nat × Exchange)) : Findings where
  controllers := (exchangesAt 1 es).any Exchange.isFound
  provider := (exchangesAt 2 es).any Exchange.isFound
  unmanaged := (exchangesAt 4 es).any Exchange.isEmptyList
  credentials := (exchangesAt Config.loginPlace es).findSome? Exchange.accepted?
  ticket := (exchangesAt Config.loginPlace es).findSome? Exchange.ticket?

/-! ## What is asked and told -/

/-- The questions about a namespace: whether it is there and, if it was found, which pods it has. -/
def namespaceQuestions (ns : String) (found : Bool) : List Question :=
  .cluster (.namespaceNamed ns) :: if found then [.cluster (.pods (some ns) none)] else []

def PodTarget.question (target : PodTarget) : Question :=
  .cluster (.pods (some target.ns) (some target.selector))

/-- The questions of a login: for the secret, with the credentials in it for a ticket, and with the
ticket for the version. -/
def loginQuestions (place : Check.SecretPlace) (credentials : Option Credentials)
    (ticket : Option Ticket) : List Question :=
  .cluster (.secret place.ns place.name) ::
    match credentials, ticket with
    | none, _ => []
    | some c, none => [Check.loginQuestion c]
    | some c, some ticket => [Check.loginQuestion c, Check.versionQuestion (c.endpoint, ticket)]

/-- What the sections of an audit ask that has found this. -/
def Config.questions (c : Config) (f : Findings) : List (List Question) :=
  [ [.cluster .version, .cluster .nodes, .cluster .nodes],
    namespaceQuestions c.controllerNs f.controllers,
    namespaceQuestions c.providerNs f.provider,
    [.cluster .definitions],
    [.cluster (.customObjects Check.managedKind)],
    [c.coreDns.question, c.cilium.question, c.kubeOvn.question],
    [.cluster .drivers, .cluster .storageClasses],
    loginQuestions ⟨c.providerNs, c.credentialsSecret⟩ f.credentials f.ticket,
    [c.prometheus.question, c.grafana.question],
    [.cluster (.pods none none)] ]

/-- Whether the outcome tells something without being counted. -/
def Outcome.informs (o : Outcome) : Bool := o.status == .info

/-- With how many outcomes a login ends: one for each of its questions. -/
def loginSteps (credentials : Option Credentials) (ticket : Option Ticket) : Nat :=
  match credentials, ticket with
  | none, _ => 1
  | some _, none => 2
  | some _, some _ => 3

/-- Which outcomes of the sections only inform, in an audit that has found this. -/
def Findings.informs (f : Findings) : List (List Bool) :=
  [ [false, false, false], [false, !f.controllers], [false], [false], [f.unmanaged],
    [false, false, false], [false, false], List.replicate (loginSteps f.credentials f.ticket) false,
    [false, false], [false] ]

/-! ## Judgements -/

namespace Outcome

@[simp] theorem informs_pass (message : String) : (pass message).informs = false := rfl

@[simp] theorem informs_fail (message : String) : (fail message).informs = false := rfl

@[simp] theorem informs_warn (message : String) : (warn message).informs = false := rfl

@[simp] theorem informs_info (message : String) : (info message).informs = true := rfl

@[simp] theorem informs_withDetails (o : Outcome) (details : List String) :
    (o.withDetails details).informs = o.informs := rfl

end Outcome

namespace Check

theorem informs_judgeNodes (nodes : List Node) : (judgeNodes nodes).informs = false := by
  simp only [judgeNodes, Outcome.informs_withDetails]
  split_ifs <;> rfl

theorem informs_judgeWorkers {markers : WorkerMarkers} {nodes : List Node} {o : Outcome}
    (h : judgeWorkers markers nodes = .ok o) : o.informs = false := by
  unfold judgeWorkers at h
  cases hrows : workerRows markers nodes with
  | error fault =>
    rw [hrows] at h
    cases h
  | ok found =>
    rw [hrows] at h
    cases found <;> (cases h; rfl)

/-- Managed clusters are judged, unless there are none. -/
theorem informs_judgeManaged {objects : List CustomObject} {o : Outcome}
    (h : judgeManaged objects = .ok o) : o.informs = objects.isEmpty := by
  unfold judgeManaged at h
  cases objects with
  | nil =>
    cases h
    rfl
  | cons object rest =>
    cases hready : (object :: rest).mapM managedReady with
    | error fault =>
      rw [hready] at h
      cases h
    | ok readiness =>
      rw [hready] at h
      cases h
      simp only [Outcome.informs_withDetails]
      split_ifs <;> rfl

theorem informs_judgeControllers (pods : List Pod) : (judgeControllers pods).informs = false := by
  simp only [judgeControllers]
  split_ifs <;> rfl

theorem informs_judgeProvider (pods : List Pod) : (judgeProvider pods).informs = false := by
  simp only [judgeProvider]
  split_ifs <;> rfl

theorem informs_judgeDefinitions (required installed : List String) :
    (judgeDefinitions required installed).informs = false := by
  simp only [judgeDefinitions]
  split_ifs <;> rfl

theorem informs_judgeDrivers (marker : String) (drivers : List Named) :
    (judgeDrivers marker drivers).informs = false := by
  simp only [judgeDrivers, judgeDriverNames]
  split_ifs <;> rfl

theorem informs_judgeStorageClasses (classes : List StorageClass) :
    (judgeStorageClasses classes).informs = false := by
  simp only [judgeStorageClasses]
  split_ifs <;> rfl

theorem informs_judgeErrorStates (pods : List Pod) : (judgeErrorStates pods).informs = false := by
  simp only [judgeErrorStates]
  split_ifs <;> rfl

end Check

theorem Component.informs_judge {c : Component} (habsent : c.whenAbsent ≠ .info)
    (pods : List Pod) : (c.judge pods).informs = false := by
  simp only [judge]
  split_ifs
  · rfl
  · exact beq_eq_false_iff_ne.mpr habsent

/-! ## Courses -/

/-- What a check asked on its way, and which of its outcomes only inform. -/
structure Course (es : List Exchange) (os : List Outcome) (questions : List Question)
    (informs : List Bool) : Prop where
  questions_eq : es.map Exchange.question = questions
  informs_eq : os.map Outcome.informs = informs

theorem Course.append {es es' : List Exchange} {os os' : List Outcome}
    {questions questions' : List Question} {informs informs' : List Bool}
    (h : Course es os questions informs) (h' : Course es' os' questions' informs') :
    Course (es ++ es') (os ++ os') (questions ++ questions') (informs ++ informs') where
  questions_eq := by rw [List.map_append, h.questions_eq, h'.questions_eq]
  informs_eq := by rw [List.map_append, h.informs_eq, h'.informs_eq]

namespace Check

variable {es : List Exchange} {os : List Outcome}

theorem trace_single {name : String} {q : ClusterQuery} {judge : q.Reply → Outcome}
    (h : (single name q judge).probe.Trace es os) :
    ∃ reply, es = [.cluster q reply] ∧ os = [judge reply] := by
  obtain ⟨reply, rest, rfl, hrest⟩ := Probe.trace_ask_iff.mp h
  obtain ⟨rfl, rfl⟩ := Probe.trace_done_iff.mp hrest
  exact ⟨reply, rfl, rfl⟩

/-- Along every trace the check asks this one question and ends in one outcome that counts. -/
def Judges (c : Check) (q : Question) : Prop :=
  ∀ es os, c.probe.Trace es os → Course es os [q] [false]

theorem judges_single {name : String} {q : ClusterQuery} {judge : q.Reply → Outcome}
    (hok : ∀ answer, (judge (.ok answer)).informs = false)
    (herror : ∀ fault, (judge (.error fault)).informs = false) :
    (single name q judge).Judges (.cluster q) := by
  intro es os h
  obtain ⟨reply, rfl, rfl⟩ := trace_single h
  refine ⟨rfl, ?_⟩
  cases reply with
  | ok answer => simp [hok]
  | error fault => simp [herror]

theorem judges_workers (markers : WorkerMarkers) : (workers markers).Judges (.cluster .nodes) := by
  refine judges_single (fun nodes => ?_) fun _ => rfl
  cases hjudged : judgeWorkers markers nodes with
  | ok o => simpa only [hjudged] using informs_judgeWorkers hjudged
  | error fault => simp only [hjudged, Outcome.informs_fail]

/-- The managed clusters are listed, and an empty list is no more than told. -/
theorem course_managed (h : managed.probe.Trace es os) :
    Course es os [.cluster (.customObjects managedKind)] [es.any Exchange.isEmptyList] := by
  obtain ⟨reply, rfl, rfl⟩ := trace_single h
  refine ⟨rfl, ?_⟩
  cases reply with
  | error fault => rfl
  | ok objects =>
    have hempty : [Exchange.cluster (.customObjects managedKind) (.ok objects)].any
        Exchange.isEmptyList = objects.isEmpty := by
      cases objects <;> rfl
    rw [hempty]
    cases hjudged : judgeManaged objects with
    | ok o => simp [hjudged, informs_judgeManaged hjudged]
    | error fault =>
      -- An empty list has no status that could be unreadable.
      cases objects with
      | nil => cases hjudged
      | cons object rest => simp [hjudged]

/-- Where the namespace of the controllers is not found, there is nothing to ask about its pods, and
this is told. -/
theorem course_controllers {ns : String} (h : (controllers ns).probe.Trace es os) :
    Course es os (namespaceQuestions ns (es.any Exchange.isFound))
      [false, !es.any Exchange.isFound] := by
  obtain ⟨reply, rest, rfl, hrest⟩ := Probe.trace_ask_iff.mp h
  match reply with
  | .error _ | .ok none =>
    obtain ⟨rfl, rfl⟩ := Probe.trace_done_iff.mp hrest
    exact ⟨rfl, rfl⟩
  | .ok (some _) =>
    obtain ⟨pods, rest, rfl, hpods⟩ := Probe.trace_ask_iff.mp hrest
    cases pods with
    | error fault =>
      obtain ⟨rfl, rfl⟩ := Probe.trace_done_iff.mp hpods
      exact ⟨rfl, rfl⟩
    | ok pods =>
      obtain ⟨rfl, rfl⟩ := Probe.trace_done_iff.mp hpods
      exact ⟨rfl, congrArg (fun b => [false, b]) (informs_judgeControllers pods)⟩

/-- Where the namespace of the provider is not found, this is the one outcome. -/
theorem course_provider {ns : String} (h : (provider ns).probe.Trace es os) :
    Course es os (namespaceQuestions ns (es.any Exchange.isFound)) [false] := by
  obtain ⟨reply, rest, rfl, hrest⟩ := Probe.trace_ask_iff.mp h
  match reply with
  | .error _ | .ok none =>
    obtain ⟨rfl, rfl⟩ := Probe.trace_done_iff.mp hrest
    exact ⟨rfl, rfl⟩
  | .ok (some _) =>
    obtain ⟨pods, rest, rfl, hpods⟩ := Probe.trace_ask_iff.mp hrest
    cases pods with
    | error fault =>
      obtain ⟨rfl, rfl⟩ := Probe.trace_done_iff.mp hpods
      exact ⟨rfl, rfl⟩
    | ok pods =>
      obtain ⟨rfl, rfl⟩ := Probe.trace_done_iff.mp hpods
      exact ⟨rfl, congrArg (fun b => [b]) (informs_judgeProvider pods)⟩

theorem findSome?_accepted? {place : SecretPlace}
    {reply : ClusterQuery.Reply (.secret place.ns place.name)} {c : Credentials}
    (h : credentialsOf place reply = .ok c) (es : List Exchange) :
    (Exchange.cluster (.secret place.ns place.name) reply :: es).findSome? Exchange.accepted? =
      some c := by
  rw [List.findSome?_cons, accepted?_of_ok h]

/-- Every step of a login ends in one outcome that counts. -/
theorem LoginCourse.course {place : SecretPlace} (h : LoginCourse place es os) :
    Course es os
      (loginQuestions place (es.findSome? Exchange.accepted?) (es.findSome? Exchange.ticket?))
      (List.replicate
        (loginSteps (es.findSome? Exchange.accepted?) (es.findSome? Exchange.ticket?)) false) := by
  -- Each course is a literal list, so it is enough to know whether the credentials were read.
  cases h with
  | unread hread =>
    rw [List.findSome?_cons, accepted?_of_error hread]
    exact ⟨rfl, rfl⟩
  | refused failure hread | unversioned ticket failure hread | complete ticket version hread =>
    rw [findSome?_accepted? hread]
    exact ⟨rfl, rfl⟩

end Check

theorem Component.judges_check {c : Component} (habsent : c.whenAbsent ≠ .info)
    (hunreachable : c.whenUnreachable ≠ .info) : c.check.Judges c.target.question :=
  Check.judges_single (Component.informs_judge habsent)
    fun _ => beq_eq_false_iff_ne.mpr hunreachable

/-! ## Sections -/

namespace Section

/-- What a section of one check gives, that check gives. -/
theorem trace_of_singleton {title : String} {c : Check} {es : List Exchange}
    {checks : List CheckRun} (h : (⟨title, [c]⟩ : Section).probe.Trace es checks) :
    c.probe.Trace es (checks.flatMap CheckRun.outcomes) := by
  obtain ⟨es₁, outcomes, es₂, rest, rfl, rfl, hcheck, hrest⟩ := Check.trace_cons h
  obtain ⟨rfl, rfl⟩ := Check.trace_nil hrest
  simpa using hcheck

/-- Where each check asks one question and judges the answer, a section asks these in order. -/
theorem course_of_judges {s : Section} {questions : List Question}
    (hchecks : List.Forall₂ Check.Judges s.checks questions) {es : List Exchange}
    {checks : List CheckRun} (h : s.probe.Trace es checks) :
    Course es (checks.flatMap CheckRun.outcomes) questions
      (List.replicate questions.length false) := by
  obtain ⟨title, cs⟩ := s
  unfold Section.probe at h
  change List.Forall₂ Check.Judges cs questions at hchecks
  induction hchecks generalizing es checks with
  | nil =>
    obtain ⟨rfl, rfl⟩ := Check.trace_nil h
    exact ⟨rfl, rfl⟩
  | cons hfirst _ ih =>
    obtain ⟨es₁, outcomes, es₂, rest, rfl, rfl, hcheck, hrest⟩ := Check.trace_cons h
    exact (hfirst es₁ outcomes hcheck).append (ih hrest)

end Section

/-! ## Audits -/

/-- Along every trace, a section of an audit asks and tells what follows from the findings. -/
theorem Config.course (c : Config) {es : List (Nat × Exchange)} {place : Nat} {s : Section}
    (hs : c.sections[place]? = some s) {checks : List CheckRun}
    (h : s.probe.Trace (exchangesAt place es) checks) :
    ∃ questions informs, (c.questions (.of es))[place]? = some questions ∧
      (Findings.of es).informs[place]? = some informs ∧
      Course (exchangesAt place es) (checks.flatMap CheckRun.outcomes) questions informs := by
  match place, hs with
  | 0, rfl =>
    refine ⟨_, _, rfl, rfl, Section.course_of_judges ?_ h⟩
    exact .cons (Check.judges_single (fun _ => rfl) fun _ => rfl)
      (.cons (Check.judges_single Check.informs_judgeNodes fun _ => rfl)
        (.cons (Check.judges_workers _) .nil))
  | 1, rfl => exact ⟨_, _, rfl, rfl, Check.course_controllers (Section.trace_of_singleton h)⟩
  | 2, rfl => exact ⟨_, _, rfl, rfl, Check.course_provider (Section.trace_of_singleton h)⟩
  | 3, rfl =>
    refine ⟨_, _, rfl, rfl, Section.course_of_judges ?_ h⟩
    exact .cons (Check.judges_single (fun _ => Check.informs_judgeDefinitions _ _) fun _ => rfl)
      .nil
  | 4, rfl => exact ⟨_, _, rfl, rfl, Check.course_managed (Section.trace_of_singleton h)⟩
  | 5, rfl =>
    refine ⟨_, _, rfl, rfl, Section.course_of_judges ?_ h⟩
    exact .cons (Component.judges_check nofun nofun)
      (.cons (Component.judges_check nofun nofun)
        (.cons (Component.judges_check nofun nofun) .nil))
  | 6, rfl =>
    refine ⟨_, _, rfl, rfl, Section.course_of_judges ?_ h⟩
    exact .cons (Check.judges_single (Check.informs_judgeDrivers _) fun _ => rfl)
      (.cons (Check.judges_single Check.informs_judgeStorageClasses fun _ => rfl) .nil)
  | 7, rfl =>
    exact ⟨_, _, rfl, rfl,
      (Check.loginCourse_of_trace (Section.trace_of_singleton h)).course⟩
  | 8, rfl =>
    refine ⟨_, _, rfl, rfl, Section.course_of_judges ?_ h⟩
    exact .cons (Component.judges_check nofun nofun)
      (.cons (Component.judges_check nofun nofun) .nil)
  | 9, rfl =>
    refine ⟨_, _, rfl, rfl, Section.course_of_judges ?_ h⟩
    exact .cons (Check.judges_single Check.informs_judgeErrorStates fun _ => rfl) .nil

/-! ## Runs -/

variable {σ : Type} {run : Run σ} {clock : Clock} {results : List (List CheckRun)}

/-- What is reported of a section came of one of its traces. -/
theorem Run.Follows.reported {plan : List Section} (h : run.Follows clock plan results)
    {place : Nat} {s : Section} (hs : plan[place]? = some s) :
    ∃ checks, s.probe.Trace (exchangesAt place run.exchanges) checks ∧
      run.report.sections[place]? = some ⟨s.title, checks.flatMap CheckRun.outcomes⟩ := by
  have hlt : place < results.length := by
    rw [h.length_eq]
    exact (List.getElem?_eq_some_iff.mp hs).1
  have hresults : results[place]? = some results[place] := List.getElem?_eq_getElem hlt
  refine ⟨results[place], h.traces place s _ hs hresults, ?_⟩
  have hzip : (plan.zip results)[place]? = some (s, results[place]) :=
    List.getElem?_zip_eq_some.mpr ⟨hs, hresults⟩
  rw [h.tells.report_eq]
  simp only [Report.ofRuns, List.getElem?_map, hzip]
  rfl

/-- Each section of an audit asked and told what follows from the findings of the run. -/
theorem Run.Follows.course {c : Config} (h : run.Follows clock c.sections results)
    {place : Nat} {s : Section} (hs : c.sections[place]? = some s) :
    ∃ os questions informs, run.report.sections[place]? = some ⟨s.title, os⟩ ∧
      (c.questions (.of run.exchanges))[place]? = some questions ∧
      (Findings.of run.exchanges).informs[place]? = some informs ∧
      Course (exchangesAt place run.exchanges) os questions informs := by
  obtain ⟨checks, htrace, hreported⟩ := h.reported hs
  obtain ⟨questions, informs, hquestions, hinforms, hcourse⟩ := c.course hs htrace
  exact ⟨_, questions, informs, hreported, hquestions, hinforms, hcourse⟩

/-- Lists with an item for each section of an audit are equal if they are at each section. -/
theorem Config.ext_sections (c : Config) {α : Type} {xs ys : List α}
    (hxs : xs.length = c.sections.length) (hys : ys.length = c.sections.length)
    (h : ∀ (place : Nat) (s : Section), c.sections[place]? = some s → xs[place]? = ys[place]?) :
    xs = ys := by
  refine List.ext_getElem? fun place => ?_
  cases hs : c.sections[place]? with
  | some s => exact h place s hs
  | none =>
    have hge : c.sections.length ≤ place := List.getElem?_eq_none_iff.mp hs
    rw [List.getElem?_eq_none (hxs ▸ hge), List.getElem?_eq_none (hys ▸ hge)]

/-! ## Clusters that do not change -/

section

variable (cluster : Cluster) (host : Hypervisor σ) (s : σ)

/-- What an audit finds out from this cluster and from this hypervisor in its state. -/
def Config.findings (c : Config) : Findings :=
  let credentials := (Check.credentialsOf c.secretPlace
    (cluster (.secret c.providerNs c.credentialsSecret))).toOption
  { controllers := (Exchange.cluster _ (cluster (.namespaceNamed c.controllerNs))).isFound
    provider := (Exchange.cluster _ (cluster (.namespaceNamed c.providerNs))).isFound
    unmanaged := (Exchange.cluster _ (cluster (.customObjects Check.managedKind))).isEmptyList
    credentials
    ticket := credentials.bind fun given =>
      (host (.authenticate given.endpoint given.username given.password) s).1.toOption }

theorem Section.exchanges_of_singleton (env : Environment σ) (title : String) (c : Check) :
    ((⟨title, [c]⟩ : Section).probe.run env s).exchanges = (c.probe.run env s).exchanges := by
  simp [Section.probe, Check.named, Probe.run_bind, Ran.afterAll]

/-- After the question for a namespace, only its pods are asked for. -/
theorem any_isFound_of_questions {ns : String} {found : Bool}
    {reply : ClusterQuery.Reply (.namespaceNamed ns)} {rest : List Exchange}
    (h : (Exchange.cluster _ reply :: rest).map Exchange.question = namespaceQuestions ns found) :
    (Exchange.cluster _ reply :: rest).any Exchange.isFound =
      (Exchange.cluster _ reply).isFound := by
  have hrest : rest.map Exchange.question =
      if found then [.cluster (.pods (some ns) none)] else [] := (List.cons.inj h).2
  have hnone : rest.any Exchange.isFound = false := by
    rw [List.any_eq_false]
    intro e he
    have hquestion : e.question ∈ rest.map Exchange.question := List.mem_map_of_mem he
    have hpods : e.question = .cluster (.pods (some ns) none) := by
      cases found <;> simp_all
    obtain ⟨question, reply⟩ := e
    cases hpods
    exact Bool.false_ne_true
  rw [List.any_cons, hnone, Bool.or_false]

namespace Check

theorem isFound_controllers (ns : String) :
    ((controllers ns).probe.run ⟨cluster, host⟩ s).exchanges.any Exchange.isFound =
      (Exchange.cluster _ (cluster (.namespaceNamed ns))).isFound :=
  any_isFound_of_questions (course_controllers (Probe.trace_run _ _ s)).questions_eq

theorem isFound_provider (ns : String) :
    ((provider ns).probe.run ⟨cluster, host⟩ s).exchanges.any Exchange.isFound =
      (Exchange.cluster _ (cluster (.namespaceNamed ns))).isFound :=
  any_isFound_of_questions (course_provider (Probe.trace_run _ _ s)).questions_eq

theorem isEmptyList_managed :
    (managed.probe.run ⟨cluster, host⟩ s).exchanges.any Exchange.isEmptyList =
      (Exchange.cluster _ (cluster (.customObjects managedKind))).isEmptyList :=
  Bool.or_false _

/-- A login reads its credentials first, and then the hypervisor gives a ticket for them or not. -/
theorem findings_hypervisor (place : SecretPlace) :
    let es := ((hypervisor place).probe.run ⟨cluster, host⟩ s).exchanges
    let credentials := (credentialsOf place (cluster (.secret place.ns place.name))).toOption
    es.findSome? Exchange.accepted? = credentials ∧
      es.findSome? Exchange.ticket? = credentials.bind fun given =>
        (host (.authenticate given.endpoint given.username given.password) s).1.toOption := by
  intro es credentials
  simp only [es, credentials, hypervisor, Probe.cluster, Probe.bind_def, Probe.ask_bind,
    Probe.done_bind, Probe.run_ask, Environment.answer_cluster]
  cases hread : credentialsOf place (cluster (.secret place.ns place.name)) with
  | error failure =>
    simp only [Ran.after, Probe.pure_def, Probe.run_done, List.findSome?_cons,
      accepted?_of_error hread]
    exact ⟨rfl, rfl⟩
  | ok given =>
    simp only [Ran.after, List.findSome?_cons, accepted?_of_ok hread]
    refine ⟨rfl, ?_⟩
    change _ = (host (.authenticate given.endpoint given.username given.password) s).1.toOption
    simp only [logIn, Probe.hypervisor, Probe.bind_def, Probe.ask_bind, Probe.done_bind,
      Probe.run_ask, Environment.answer_hypervisor]
    cases (host (.authenticate given.endpoint given.username given.password) s).1 with
    | error failure => rfl
    | ok ticket => rfl

end Check

/-- What an audit finds out of a cluster that does not change is the same in every run. -/
theorem Config.findings_run (c : Config) (mode : Mode) (clock : Clock) :
    Findings.of (mode.run ⟨cluster, host⟩ clock c.sections s).exchanges =
      c.findings cluster host s := by
  have halone := (c.run_isolated cluster host mode clock s).exchanges_eq
  obtain ⟨hcredentials, hticket⟩ := Check.findings_hypervisor cluster host s c.secretPlace
  simp only [Findings.of, halone 1 _ rfl, halone 2 _ rfl, halone 4 _ rfl,
    halone loginPlace _ c.sections_login, loginSection, Section.exchanges_of_singleton,
    Check.isFound_controllers, Check.isFound_provider, Check.isEmptyList_managed, hcredentials,
    hticket]
  rfl

end

end ClusterAudit
