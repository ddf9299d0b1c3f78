-- SUMMARY: More pods that run well make no outcome of an audit worse and leave the scan as it is.
import ClusterAudit.Hypervisor.Client
import ClusterAudit.Proofs.Display
import ClusterAudit.Proofs.Locality
import ClusterAudit.Proofs.Severity

/-!
# Healthy pods

Two clusters differ in their pods alone: the second has more of them, and all of these run and are
in no error state. The audits of both are compared outcome by outcome. The checks judge pods in two
ways. Some look for a pod that runs, so more such pods can only turn what was missing into a pass.
The scan looks for broken pods, and sees the same ones.

An audit runs its checks one after the other in the same state of the hypervisor, so the comparison
goes through the probes: `Probe.Relates` relates the values to which they come in two worlds. The
verdict follows by severity.
-/

namespace ClusterAudit

variable {σ α β γ δ : Type}

/-! ## Probes with related values -/

namespace Probe

/-- From one state, two probes in two worlds come to values that are related, and to one state. -/
def Relates (env env' : Environment σ) (R : α → β → Prop) (p : Probe α) (p' : Probe β) : Prop :=
  ∀ s, R (p.run env s).value (p'.run env' s).value ∧ (p.run env s).state = (p'.run env' s).state

variable {env env' : Environment σ} {R : α → β → Prop}

theorem relates_done {a : α} {b : β} (h : R a b) : (done a).Relates env env' R (done b) :=
  fun _ => ⟨h, rfl⟩

/-- A question that leaves the same state in both worlds, whatever the answers are. -/
theorem relates_ask {q : Question} {next : q.Reply → Probe α} {next' : q.Reply → Probe β}
    (hstate : ∀ s, (env.answer q s).2 = (env'.answer q s).2)
    (hnext : ∀ s, (next (env.answer q s).1).Relates env env' R (next' (env'.answer q s).1)) :
    (ask q next).Relates env env' R (ask q next') := by
  intro s
  simp only [run_ask, Ran.after, hstate s]
  exact hnext s _

theorem relates_ask_same {q : Question} {next : q.Reply → Probe α} {next' : q.Reply → Probe β}
    (hq : env.answer q = env'.answer q)
    (hnext : ∀ reply, (next reply).Relates env env' R (next' reply)) :
    (ask q next).Relates env env' R (ask q next') := by
  refine relates_ask (fun s => by rw [hq]) fun s => ?_
  rw [hq]
  exact hnext _

theorem Relates.bind {p : Probe α} {p' : Probe β} {k : α → Probe γ} {k' : β → Probe δ}
    {S : γ → δ → Prop} (h : p.Relates env env' R p')
    (hk : ∀ a b, R a b → (k a).Relates env env' S (k' b)) :
    (p.bind k).Relates env env' S (p'.bind k') := by
  intro s
  obtain ⟨hvalue, hstate⟩ := h s
  simp only [run_bind, Ran.afterAll, hstate]
  exact hk _ _ hvalue _

theorem relates_mapM {f : γ → Probe α} {f' : γ → Probe β} {cs : List γ}
    (h : ∀ c ∈ cs, (f c).Relates env env' R (f' c)) :
    (cs.mapM f).Relates env env' (List.Forall₂ R) (cs.mapM f') := by
  induction cs with
  | nil => exact relates_done .nil
  | cons c cs ih =>
    rw [List.mapM_cons, List.mapM_cons]
    refine Relates.bind (h c List.mem_cons_self) fun a b hab => ?_
    refine Relates.bind (ih fun d hd => h d (List.mem_cons_of_mem c hd)) fun as bs hrest => ?_
    exact relates_done (.cons hab hrest)

/-- A probe whose questions are all answered alike comes to the same value in both worlds. -/
theorem relates_of_asksOnly {R : α → α → Prop} (hrefl : ∀ a, R a a) {p : Probe α}
    (h : p.AsksOnly fun q => env.answer q = env'.answer q) : p.Relates env env' R p := by
  induction p with
  | done value => exact relates_done (hrefl value)
  | ask q next ih => exact relates_ask_same h.1 fun reply => ih reply (h.2 reply)
  | wait milliseconds next ih => exact ih h

end Probe

/-! ## Outcomes -/

/-- The outcome keeps its status, or was a failure or a warning and passes now. -/
def Outcome.ClearsTo (o o' : Outcome) : Prop :=
  o'.status = o.status ∨ (o.status = .fail ∨ o.status = .warn) ∧ o'.status = .pass

theorem Outcome.ClearsTo.refl (o : Outcome) : o.ClearsTo o := .inl rfl

theorem Outcome.forall₂_clearsTo_refl (os : List Outcome) : List.Forall₂ ClearsTo os os :=
  List.forall₂_same.mpr fun o _ => .refl o

theorem Outcome.ClearsTo.rank_le {o o' : Outcome} (h : o.ClearsTo o') : o'.rank ≤ o.rank := by
  unfold rank
  obtain hsame | ⟨-, hpass⟩ := h
  · exact Nat.le_of_eq (congrArg Status.rank hsame)
  · rw [hpass]
    exact Nat.zero_le _

/-- A section with the same title, whose outcomes clear one by one. -/
structure SectionReport.ClearsTo (r r' : SectionReport) : Prop where
  title_eq : r'.title = r.title
  outcomes : List.Forall₂ Outcome.ClearsTo r.outcomes r'.outcomes

theorem Run.Tells.verdict_eq {run : Run σ} {clock : Clock} {runs : List SectionRun}
    (h : run.Tells clock runs) : run.report.verdict = verdictOn run.report.outcomes := by
  rw [h.report_eq, Report.outcomes_ofRuns]
  rfl

/-- Where the outcomes clear, the exit code does not rise. -/
theorem exitCode_verdictOn_le_of_clearsTo {os os' : List Outcome}
    (h : List.Forall₂ Outcome.ClearsTo os os') :
    (verdictOn os').exitCode ≤ (verdictOn os).exitCode := by
  have hranks : List.Forall₂ (fun o' o => Outcome.rank o' ≤ Outcome.rank o) os' os :=
    h.flip.imp fun _ _ (hclears : Outcome.ClearsTo _ _) => hclears.rank_le
  exact exitCode_verdictOn_le fun rank _ => severeCount_le_of_forall₂ hranks rank

/-! ## Pods -/

/-- A pod that runs and is in no error state. -/
def Pod.IsHealthy (p : Pod) : Prop := p.isRunning = true ∧ p.isBroken = false

/-- The second cluster answers as the first, but for more healthy pods in some of its answers. -/
structure Cluster.GainsHealthyPods (cluster cluster' : Cluster) : Prop where
  others : ∀ q, (∀ ns selector, q ≠ .pods ns selector) → cluster q = cluster' q
  pods : ∀ ns selector, ∃ pods pods' : List Pod, cluster (.pods ns selector) = .ok pods ∧
    cluster' (.pods ns selector) = .ok pods' ∧ Gains Pod.IsHealthy pods pods'

/-- A judgement that looks for a pod that runs: it passes if there is one, and has another status if
there is none. -/
structure SeeksRunning (judge : List Pod → Outcome) (absent : Status) : Prop where
  present : ∀ pods, 0 < runningCount pods → (judge pods).status = .pass
  absent : ∀ pods, runningCount pods = 0 → (judge pods).status = absent

theorem seeksRunning_ite {present absent : List Pod → Outcome} {status : Status}
    (hpresent : ∀ pods, (present pods).status = .pass)
    (habsent : ∀ pods, (absent pods).status = status) :
    SeeksRunning (fun pods => if 0 < runningCount pods then present pods else absent pods)
      status where
  present pods h := by
    simp only [if_pos h]
    exact hpresent pods
  absent pods h := by
    simp only [h, Nat.lt_irrefl, if_false]
    exact habsent pods

theorem SeeksRunning.clearsTo {judge : List Pod → Outcome} {absent : Status}
    (h : SeeksRunning judge absent) (habsent : absent = .fail ∨ absent = .warn)
    {pods pods' : List Pod} (hgains : Gains Pod.IsHealthy pods pods') :
    (judge pods).ClearsTo (judge pods') := by
  have hle : runningCount pods ≤ runningCount pods' := hgains.sublist.countP_le
  rcases Nat.eq_zero_or_pos (runningCount pods) with hnone | hsome
  · have hstatus := h.absent pods hnone
    rcases Nat.eq_zero_or_pos (runningCount pods') with hnone' | hsome'
    · exact .inl ((h.absent pods' hnone').trans hstatus.symm)
    · exact .inr ⟨hstatus ▸ habsent, h.present pods' hsome'⟩
  · have hstatus' := h.present pods' (Nat.lt_of_lt_of_le hsome hle)
    exact .inl (hstatus'.trans (h.present pods hsome).symm)

namespace Check

theorem seeksRunning_controllers : SeeksRunning judgeControllers .fail :=
  seeksRunning_ite (fun _ => rfl) fun _ => rfl

theorem seeksRunning_provider : SeeksRunning judgeProvider .fail :=
  seeksRunning_ite (fun _ => rfl) fun _ => rfl

/-- The scan does not see pods that are well. -/
theorem judgeErrorStates_gains {pods pods' : List Pod} (h : Gains Pod.IsHealthy pods pods') :
    judgeErrorStates pods' = judgeErrorStates pods := by
  simp only [judgeErrorStates, h.filter_eq fun _ hp => hp.2]

end Check

theorem Component.seeksRunning (c : Component) : SeeksRunning c.judge c.whenAbsent :=
  seeksRunning_ite (fun _ => rfl) fun _ => rfl

/-! ## Checks -/

/-- The outcomes of the check clear one by one. -/
def Check.Clears (env env' : Environment σ) (c : Check) : Prop :=
  c.probe.Relates env env' (List.Forall₂ Outcome.ClearsTo) c.probe

section

variable {cluster cluster' : Cluster} {hypervisor : Hypervisor σ}

namespace Cluster.GainsHealthyPods

/-- All other questions are answered alike. -/
theorem answer_eq (h : cluster.GainsHealthyPods cluster') {q : Question}
    (hq : ∀ ns selector, q ≠ .cluster (.pods ns selector)) :
    (Environment.mk cluster hypervisor).answer q =
      (Environment.mk cluster' hypervisor).answer q := by
  funext s
  cases q with
  | hypervisor q => rfl
  | cluster q =>
    have hothers := h.others q fun ns selector heq => hq ns selector (congrArg _ heq)
    simp only [Environment.answer_cluster, hothers]

/-- A question for pods gets more healthy pods, and a check may go on differently. -/
theorem relates_pods (h : cluster.GainsHealthyPods cluster') {R : α → β → Prop}
    {ns selector : Option String} {next : Except QueryFault (List Pod) → Probe α}
    {next' : Except QueryFault (List Pod) → Probe β}
    (hnext : ∀ pods pods', Gains Pod.IsHealthy pods pods' →
      (next (.ok pods)).Relates ⟨cluster, hypervisor⟩ ⟨cluster', hypervisor⟩ R
        (next' (.ok pods'))) :
    (Probe.ask (.cluster (.pods ns selector)) next).Relates ⟨cluster, hypervisor⟩
      ⟨cluster', hypervisor⟩ R (.ask (.cluster (.pods ns selector)) next') := by
  obtain ⟨pods, pods', hpods, hpods', hgains⟩ := h.pods ns selector
  refine Probe.relates_ask (fun _ => rfl) fun s => ?_
  simp only [Environment.answer_cluster, hpods, hpods']
  exact hnext pods pods' hgains

end Cluster.GainsHealthyPods

namespace Check

/-- A check that asks for no pods gives the same. -/
theorem clears_of_asksOnly (h : cluster.GainsHealthyPods cluster') {c : Check}
    (hasks : c.probe.AsksOnly fun q => ∀ ns selector, q ≠ .cluster (.pods ns selector)) :
    c.Clears ⟨cluster, hypervisor⟩ ⟨cluster', hypervisor⟩ :=
  Probe.relates_of_asksOnly Outcome.forall₂_clearsTo_refl (hasks.mono fun _ hq => h.answer_eq hq)

theorem clears_single (h : cluster.GainsHealthyPods cluster') {name : String} {q : ClusterQuery}
    {judge : q.Reply → Outcome} (hq : ∀ ns selector, q ≠ .pods ns selector) :
    (single name q judge).Clears ⟨cluster, hypervisor⟩ ⟨cluster', hypervisor⟩ :=
  clears_of_asksOnly h (asksOnly_single _ _ fun ns selector heq =>
    hq ns selector (Question.cluster.inj heq))

theorem clears_hypervisor (h : cluster.GainsHealthyPods cluster') (place : SecretPlace) :
    (Check.hypervisor place).Clears ⟨cluster, hypervisor⟩ ⟨cluster', hypervisor⟩ :=
  clears_of_asksOnly h (asksOnly_hypervisor nofun nofun)

/-- The namespace is found in both clusters or in none. -/
theorem clears_controllers (h : cluster.GainsHealthyPods cluster') (ns : String) :
    (controllers ns).Clears ⟨cluster, hypervisor⟩ ⟨cluster', hypervisor⟩ := by
  refine Probe.relates_ask_same (h.answer_eq nofun) fun reply => ?_
  match reply with
  | .error _ | .ok none => exact Probe.relates_done (Outcome.forall₂_clearsTo_refl _)
  | .ok (some _) =>
    refine h.relates_pods fun pods pods' hgains => Probe.relates_done ?_
    exact .cons (.refl _) (.cons (seeksRunning_controllers.clearsTo (.inl rfl) hgains) .nil)

theorem clears_provider (h : cluster.GainsHealthyPods cluster') (ns : String) :
    (provider ns).Clears ⟨cluster, hypervisor⟩ ⟨cluster', hypervisor⟩ := by
  refine Probe.relates_ask_same (h.answer_eq nofun) fun reply => ?_
  match reply with
  | .error _ | .ok none => exact Probe.relates_done (Outcome.forall₂_clearsTo_refl _)
  | .ok (some _) =>
    refine h.relates_pods fun pods pods' hgains => Probe.relates_done ?_
    exact .cons (seeksRunning_provider.clearsTo (.inl rfl) hgains) .nil

theorem clears_errorStates (h : cluster.GainsHealthyPods cluster') :
    errorStates.Clears ⟨cluster, hypervisor⟩ ⟨cluster', hypervisor⟩ := by
  refine h.relates_pods fun pods pods' hgains => Probe.relates_done ?_
  simp only [judgeErrorStates_gains hgains]
  exact Outcome.forall₂_clearsTo_refl _

end Check

theorem Component.clears_check (h : cluster.GainsHealthyPods cluster') {c : Component}
    (habsent : c.whenAbsent = .fail ∨ c.whenAbsent = .warn) :
    c.check.Clears ⟨cluster, hypervisor⟩ ⟨cluster', hypervisor⟩ := by
  refine h.relates_pods fun pods pods' hgains => Probe.relates_done ?_
  exact .cons (c.seeksRunning.clearsTo habsent hgains) .nil

/-! ## Sections -/

theorem Section.clears {env env' : Environment σ} {sec : Section}
    (h : ∀ c ∈ sec.checks, c.Clears env env') (s : σ) :
    (sec.alone env s).report.ClearsTo (sec.alone env' s).report := by
  have hchecks : sec.probe.Relates env env'
      (List.Forall₂ fun r r' => List.Forall₂ Outcome.ClearsTo r.outcomes r'.outcomes) sec.probe :=
    Probe.relates_mapM fun c hc =>
      Probe.Relates.bind (h c hc) fun _ _ hclears => Probe.relates_done hclears
  exact ⟨rfl, List.rel_flatMap (hchecks s).1 fun _ _ hclears => hclears⟩

namespace Config

theorem clears (config : Config) (h : cluster.GainsHealthyPods cluster') {place : Nat}
    {sec : Section} (hsec : config.sections[place]? = some sec) :
    ∀ c ∈ sec.checks, c.Clears ⟨cluster, hypervisor⟩ ⟨cluster', hypervisor⟩ := by
  match place, hsec with
  | 0, rfl =>
    simp only [List.forall_mem_cons]
    exact ⟨Check.clears_single h nofun, Check.clears_single h nofun, Check.clears_single h nofun,
      nofun⟩
  | 1, rfl =>
    simp only [List.forall_mem_singleton]
    exact Check.clears_controllers h _
  | 2, rfl =>
    simp only [List.forall_mem_singleton]
    exact Check.clears_provider h _
  | 3, rfl | 4, rfl =>
    simp only [List.forall_mem_singleton]
    exact Check.clears_single h nofun
  | 5, rfl =>
    simp only [List.forall_mem_cons]
    exact ⟨Component.clears_check h (.inl rfl), Component.clears_check h (.inr rfl),
      Component.clears_check h (.inl rfl), nofun⟩
  | 6, rfl =>
    simp only [List.forall_mem_cons]
    exact ⟨Check.clears_single h nofun, Check.clears_single h nofun, nofun⟩
  | 7, rfl =>
    simp only [List.forall_mem_singleton]
    exact Check.clears_hypervisor h _
  | 8, rfl =>
    simp only [List.forall_mem_cons]
    exact ⟨Component.clears_check h (.inr rfl), Component.clears_check h (.inr rfl), nofun⟩
  | 9, rfl =>
    simp only [List.forall_mem_singleton]
    exact Check.clears_errorStates h

/-- The place of the scan among the sections. -/
def scanPlace : Nat := 9

def scanSection : Section := ⟨"10. Workload Health Summary", [.errorStates]⟩

theorem sections_scan (config : Config) : config.sections[scanPlace]? = some scanSection := rfl

end Config

/-- What the scan reports of the pods of a cluster. -/
theorem Section.report_scan {pods : List Pod} (hpods : cluster (.pods none none) = .ok pods)
    (s : σ) :
    (Config.scanSection.alone ⟨cluster, hypervisor⟩ s).report =
      ⟨Config.scanSection.title, [Check.judgeErrorStates pods]⟩ := by
  have hvalue : (Check.errorStates.probe.run ⟨cluster, hypervisor⟩ s).value =
      [Check.judgeErrorStates pods] := by
    simp [Check.errorStates, Check.single, Probe.cluster, Ran.after, hpods]
  rw [← hvalue]
  rfl

end

/-! ## Audits -/

/-- However the audits of two clusters are run, of which the second has more healthy pods, each
outcome keeps its status or turns from a failure or a warning into a pass. The scan tells the same,
and the exit code does not rise. -/
theorem healthy_pods_never_worsen {cluster cluster' : Cluster}
    (h : cluster.GainsHealthyPods cluster') (config : Config) (hypervisor : Hypervisor σ) (s : σ)
    (mode mode' : Mode) (clock clock' : Clock) :
    let report := (mode.run ⟨cluster, hypervisor⟩ clock config.sections s).report
    let report' := (mode'.run ⟨cluster', hypervisor⟩ clock' config.sections s).report
    List.Forall₂ SectionReport.ClearsTo report.sections report'.sections ∧
    (∃ o, report.sections[Config.scanPlace]? = some ⟨Config.scanSection.title, [o]⟩ ∧
      report'.sections[Config.scanPlace]? = some ⟨Config.scanSection.title, [o]⟩) ∧
    report'.verdict.exitCode ≤ report.verdict.exitCode := by
  intro report report'
  have hrun := config.run_isolated cluster hypervisor mode clock s
  have hrun' := config.run_isolated cluster' hypervisor mode' clock' s
  have hsections : List.Forall₂ SectionReport.ClearsTo report.sections report'.sections := by
    rw [hrun.report_sections, hrun'.report_sections, List.forall₂_map_left_iff,
      List.forall₂_map_right_iff, List.forall₂_same]
    intro sec hsec
    obtain ⟨place, hplace⟩ := List.getElem?_of_mem hsec
    exact Section.clears (config.clears h hplace) s
  refine ⟨hsections, ?_, ?_⟩
  · obtain ⟨pods, pods', hpods, hpods', hgains⟩ := h.pods none none
    refine ⟨Check.judgeErrorStates pods, ?_, ?_⟩
    · rw [hrun.report_sections, List.getElem?_map, config.sections_scan, Option.map_some,
        Section.report_scan hpods]
    · rw [hrun'.report_sections, List.getElem?_map, config.sections_scan, Option.map_some,
        Section.report_scan hpods', Check.judgeErrorStates_gains hgains]
  · have houtcomes : List.Forall₂ Outcome.ClearsTo report.outcomes report'.outcomes :=
      List.rel_flatMap hsections fun _ _ hclears => hclears.outcomes
    calc report'.verdict.exitCode
        = (verdictOn report'.outcomes).exitCode := congrArg _ hrun'.tells.verdict_eq
      _ ≤ (verdictOn report.outcomes).exitCode := exitCode_verdictOn_le_of_clearsTo houtcomes
      _ = report.verdict.exitCode := congrArg _ hrun.tells.verdict_eq.symm

/-- A cluster in which all namespaces are found, with the same pods in each, and nothing else. -/
def Cluster.onlyPods (pods : List Pod) : Cluster
  | .namespaceNamed _ => .ok (some {})
  | .pods _ _ => .ok pods
  | _ => .error (.unavailable "down")

/-- A pod in an error state, and then the same pod between two that run: the provider, which was
missing, is there. -/
theorem healthy_pods_never_worsen_provider :
    let running : Pod := { status := some { phase := some "Running" } }
    let crashing : Pod := { status := some { phase := some "Failed", reason := some "Error" } }
    let cluster := Cluster.onlyPods [crashing]
    let cluster' := Cluster.onlyPods [running, crashing, running]
    let hypervisor := Hypervisor.constant (.ok ⟨"ticket", "token"⟩) (.ok {})
    let config : Config := {}
    let run := Mode.sequential.run ⟨cluster, hypervisor⟩ default config.sections ()
    let run' := (Mode.concurrent [9, 2, 2]).run ⟨cluster', hypervisor⟩ default config.sections ()
    cluster.GainsHealthyPods cluster' ∧
    List.Forall₂ SectionReport.ClearsTo run.report.sections run'.report.sections ∧
    (run.report.sections[2]?.map fun r => r.outcomes.map Outcome.status) = some [.fail] ∧
    (run'.report.sections[2]?.map fun r => r.outcomes.map Outcome.status) = some [.pass] ∧
    run'.report.verdict.exitCode ≤ run.report.verdict.exitCode := by
  intro running crashing cluster cluster' hypervisor config run run'
  have hrunning : running.IsHealthy := ⟨by decide, by decide⟩
  have hgains : cluster.GainsHealthyPods cluster' := by
    refine ⟨fun q hq => ?_, fun ns selector => ?_⟩
    · cases q with
      | pods ns selector => exact absurd rfl (hq ns selector)
      | _ => rfl
    · exact ⟨_, _, rfl, rfl, .gain hrunning (.keep crashing (.gain hrunning .nil))⟩
  obtain ⟨hsections, -, hexit⟩ := healthy_pods_never_worsen hgains config hypervisor ()
    .sequential (.concurrent [9, 2, 2]) default default
  exact ⟨hgains, hsections, by decide, by decide, hexit⟩

end ClusterAudit
