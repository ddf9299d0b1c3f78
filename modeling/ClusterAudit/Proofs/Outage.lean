-- SUMMARY: Without a connection to the cluster every check tells so and an audit is critical.
import ClusterAudit.Proofs.Failures
import ClusterAudit.Proofs.Locality
import Mathlib.Data.List.Forall2

/-!
# Without a connection

A cluster to which there is no connection answers every question with the same failure. No check
gets past its first question then, so nothing passes, the hypervisor is not asked, and the reason
stands at the end of every message that counts. This is found for each check alone. Since no check
changes anything, it is also what an audit tells, whichever way it is run.
-/

namespace ClusterAudit

variable {σ : Type}

/-! ## What is told -/

/-- What may be told without a connection: why nothing could be asked, or that something was for
this reason not looked at. -/
inductive Outcome.TellsOutage (reason : String) : Outcome → Prop
  | blames {status : Status} {start : String} (hcounted : status = .fail ∨ status = .warn) :
      TellsOutage reason ⟨status, start ++ ("cluster unavailable: " ++ reason), []⟩
  | skips : TellsOutage reason (.info "Skipping CAPI controller pods: namespace unavailable")

namespace Outcome.TellsOutage

variable {reason : String} {o : Outcome}

theorem eq_of_info (h : o.TellsOutage reason) (hinfo : o.status = .info) :
    o = .info "Skipping CAPI controller pods: namespace unavailable" := by
  cases h with
  | blames hcounted => simp_all
  | skips => rfl

theorem exists_start (h : o.TellsOutage reason) (hinfo : o.status ≠ .info) :
    ∃ start, o.message = start ++ ("cluster unavailable: " ++ reason) := by
  cases h with
  | blames hcounted => exact ⟨_, rfl⟩
  | skips => exact absurd rfl hinfo

end Outcome.TellsOutage

/-- A question to the cluster, answered with the reason why there is no connection. -/
def Exchange.IsRefused (reason : String) (e : Exchange) : Prop :=
  ∃ q, e = ⟨.cluster q, .error (.unavailable reason)⟩

/-! ## Checks -/

section

variable (reason : String) (host : Hypervisor σ) (s : σ)

/-- The check is refused its first question and asks no other, and what it tells of this has these
statuses. -/
structure Check.TellsOutage (c : Check) (statuses : List Status) : Prop where
  asked : ∃ e, Exchange.IsRefused reason e ∧
    (c.probe.run ⟨Cluster.unreachable reason, host⟩ s).exchanges = [e]
  state_eq : (c.probe.run ⟨Cluster.unreachable reason, host⟩ s).state = s
  outcomes : ∀ o ∈ (c.probe.run ⟨Cluster.unreachable reason, host⟩ s).value, o.TellsOutage reason
  statuses_eq :
    (c.probe.run ⟨Cluster.unreachable reason, host⟩ s).value.map Outcome.status = statuses

/-- The checks of the section are refused all their questions, and what each of them tells of this
has these statuses. -/
structure Section.TellsOutage (sec : Section) (statuses : List (List Status)) : Prop where
  asked : ∀ e ∈ (sec.probe.run ⟨Cluster.unreachable reason, host⟩ s).exchanges,
    Exchange.IsRefused reason e
  state_eq : (sec.probe.run ⟨Cluster.unreachable reason, host⟩ s).state = s
  outcomes : ∀ c ∈ (sec.alone ⟨Cluster.unreachable reason, host⟩ s).checks,
    ∀ o ∈ c.outcomes, o.TellsOutage reason
  statuses_eq : (sec.alone ⟨Cluster.unreachable reason, host⟩ s).checks.map
    (fun c => c.outcomes.map Outcome.status) = statuses

variable {reason host s}

namespace Check

theorem tellsOutage_single (name : String) {q : ClusterQuery} {judge : q.Reply → Outcome}
    {status : Status} {start : String} (hcounted : status = .fail ∨ status = .warn)
    (hjudge : judge (.error (.unavailable reason)) =
      ⟨status, start ++ (QueryFault.unavailable reason).message, []⟩) :
    (single name q judge).TellsOutage reason host s [status] where
  asked := ⟨_, ⟨q, rfl⟩, rfl⟩
  state_eq := rfl
  outcomes := by
    have hblames : (judge (.error (.unavailable reason))).TellsOutage reason := by
      rw [hjudge]
      exact .blames hcounted
    exact List.forall_mem_singleton.mpr hblames
  statuses_eq := by
    have hstatus : (judge (.error (.unavailable reason))).status = status := by rw [hjudge]
    exact congrArg ([·]) hstatus

/-- Where the namespace cannot be looked up, its pods are not asked for. -/
theorem tellsOutage_controllers (ns : String) :
    (controllers ns).TellsOutage reason host s [.fail, .info] where
  asked := ⟨_, ⟨.namespaceNamed ns, rfl⟩, rfl⟩
  state_eq := rfl
  outcomes := List.forall_mem_cons.mpr
    ⟨.blames (.inl rfl), List.forall_mem_singleton.mpr .skips⟩
  statuses_eq := rfl

theorem tellsOutage_provider (ns : String) :
    (provider ns).TellsOutage reason host s [.fail] where
  asked := ⟨_, ⟨.namespaceNamed ns, rfl⟩, rfl⟩
  state_eq := rfl
  outcomes := List.forall_mem_singleton.mpr (.blames (.inl rfl))
  statuses_eq := rfl

/-- Where the secret cannot be read, the hypervisor is not asked. -/
theorem tellsOutage_hypervisor (place : SecretPlace) :
    (hypervisor place).TellsOutage reason host s [.fail] where
  asked := ⟨_, ⟨_, rfl⟩, rfl⟩
  state_eq := rfl
  outcomes := List.forall_mem_singleton.mpr (.blames (.inl rfl))
  statuses_eq := rfl

end Check

theorem Component.tellsOutage_check {c : Component}
    (hcounted : c.whenUnreachable = .fail ∨ c.whenUnreachable = .warn) :
    c.check.TellsOutage reason host s [c.whenUnreachable] :=
  Check.tellsOutage_single c.name hcounted rfl

/-! ## Sections -/

/-- A section tells what its checks tell. -/
theorem Section.tellsOutage_of_checks {title : String} {cs : List Check}
    {statuses : List (List Status)}
    (h : List.Forall₂ (Check.TellsOutage reason host s) cs statuses) :
    (Section.mk title cs).TellsOutage reason host s statuses := by
  induction h with
  | nil => exact ⟨nofun, rfl, nofun, rfl⟩
  | @cons c first cs rest hfirst _ ih =>
    obtain ⟨⟨e, he, hexchanges⟩, hstate, houtcomes, hstatuses⟩ := hfirst
    obtain ⟨hasked', hstate', houtcomes', hstatuses'⟩ := ih
    let env : Environment σ := ⟨Cluster.unreachable reason, host⟩
    -- The later checks start from the state in which the first one started.
    have hrun : (Section.mk title (c :: cs)).probe.run env s =
        ⟨⟨c.name, (c.probe.run env s).value⟩ :: ((Section.mk title cs).probe.run env s).value,
          e :: ((Section.mk title cs).probe.run env s).exchanges,
          ((Section.mk title cs).probe.run env s).state⟩ := by
      simp [Section.probe, Check.named, Probe.run_bind, Ran.afterAll, env, hstate, hexchanges]
    have halone : ((Section.mk title (c :: cs)).alone env s).checks =
        ⟨c.name, (c.probe.run env s).value⟩ :: ((Section.mk title cs).alone env s).checks :=
      congrArg Ran.value hrun
    refine ⟨?_, ?_, ?_, ?_⟩
    · rw [hrun]
      exact List.forall_mem_cons.mpr ⟨he, hasked'⟩
    · rw [hrun]
      exact hstate'
    · rw [halone]
      exact List.forall_mem_cons.mpr ⟨houtcomes, houtcomes'⟩
    · rw [halone, List.map_cons, hstatuses']
      exact congrArg (· :: rest) hstatuses

/-! ## Audits -/

namespace Config

/-- The statuses of what each check of each section tells without a connection. -/
def outageStatuses : List (List (List Status)) :=
  [ [[.fail], [.fail], [.fail]], [[.fail, .info]], [[.fail]], [[.fail]], [[.fail]],
    [[.fail], [.fail], [.fail]], [[.fail], [.fail]], [[.fail]], [[.warn], [.warn]], [[.fail]] ]

theorem tellsOutage (c : Config) :
    List.Forall₂ (Section.TellsOutage reason host s) c.sections outageStatuses := by
  have hsingle {name : String} {q : ClusterQuery} {judge : q.Reply → Outcome} {start : String}
      (hjudge : judge (.error (.unavailable reason)) =
        ⟨.fail, start ++ (QueryFault.unavailable reason).message, []⟩) :
      (Check.single name q judge).TellsOutage reason host s [.fail] :=
    Check.tellsOutage_single name (.inl rfl) hjudge
  refine .cons ?_ (.cons ?_ (.cons ?_ (.cons ?_ (.cons ?_ (.cons ?_ (.cons ?_ (.cons ?_ (.cons ?_
    (.cons ?_ .nil))))))))) <;> refine Section.tellsOutage_of_checks ?_
  · exact .cons (hsingle rfl) (.cons (hsingle rfl) (.cons (hsingle rfl) .nil))
  · exact .cons (Check.tellsOutage_controllers _) .nil
  · exact .cons (Check.tellsOutage_provider _) .nil
  · exact .cons (hsingle rfl) .nil
  · exact .cons (hsingle rfl) .nil
  · exact .cons (Component.tellsOutage_check (.inl rfl))
      (.cons (Component.tellsOutage_check (.inl rfl))
        (.cons (Component.tellsOutage_check (.inl rfl)) .nil))
  · exact .cons (hsingle rfl) (.cons (hsingle rfl) .nil)
  · exact .cons (Check.tellsOutage_hypervisor _) .nil
  · exact .cons (Component.tellsOutage_check (.inr rfl))
      (.cons (Component.tellsOutage_check (.inr rfl)) .nil)
  · exact .cons (hsingle rfl) .nil

theorem exists_tellsOutage (c : Config) :
    ∀ sec ∈ c.sections, ∃ statuses, sec.TellsOutage reason host s statuses :=
  ((List.forall₂_and_left _ _).mp (c.tellsOutage.imp fun _ _ h => ⟨⟨_, h⟩, h⟩)).1

/-- The checks that only watch are those that warn of it. -/
theorem warn_mem_outageStatuses {place : Nat} {checks : List (List Status)}
    (hplace : outageStatuses[place]? = some checks) {statuses : List Status}
    (hstatuses : statuses ∈ checks) : .warn ∈ statuses ↔ place = monitoringPlace := by
  have hall : ∀ place : Fin outageStatuses.length, ∀ statuses ∈ outageStatuses[place],
      .warn ∈ statuses ↔ place.val = monitoringPlace := by decide +revert
  obtain ⟨hlt, rfl⟩ := List.getElem?_eq_some_iff.mp hplace
  exact hall ⟨place, hlt⟩ statuses hstatuses

/-- What the sections of an audit give without a connection. -/
structure TellsOutage (reason : String) (runs : List SectionRun) : Prop where
  outcomes : ∀ o ∈ runs.flatMap SectionRun.outcomes, o.TellsOutage reason
  statuses_eq : runs.map (fun sec => sec.checks.map fun c => c.outcomes.map Outcome.status) =
    outageStatuses

theorem tellsOutage_alone (c : Config) :
    TellsOutage reason
      (c.sections.map (Section.alone ⟨Cluster.unreachable reason, host⟩ s)) where
  outcomes := by
    intro o ho
    simp only [SectionRun.outcomes, List.mem_flatMap, List.mem_map] at ho
    obtain ⟨_, ⟨sec, hsec, rfl⟩, check, hcheck, ho⟩ := ho
    obtain ⟨statuses, htells⟩ := c.exists_tellsOutage sec hsec
    exact htells.outcomes check hcheck o ho
  statuses_eq := by
    rw [← List.forall₂_eq_eq_eq, List.forall₂_map_left_iff, List.forall₂_map_left_iff]
    exact c.tellsOutage.imp fun _ _ h => h.statuses_eq

end Config

end

/-! ## Reports -/

namespace Report

/-- The report tells that there is no connection to the cluster. -/
structure TellsOutage (r : Report) (reason : String) : Prop where
  tells_reason : ∀ o ∈ r.outcomes, o.status ≠ .info →
    ∃ start, o.message = start ++ ("cluster unavailable: " ++ reason)
  passed_eq : r.outcomesWith .pass = []
  failed_eq : (r.outcomesWith .fail).length = 14
  warned_eq : (r.outcomesWith .warn).length = 2
  informed_eq : r.outcomesWith .info =
    [.info "Skipping CAPI controller pods: namespace unavailable"]
  verdict_eq : r.verdict = .critical
  exitCode_eq : r.verdict.exitCode = 2

theorem tellsOutage_ofRuns {reason : String} {runs : List SectionRun}
    (h : Config.TellsOutage reason runs) (clock : Clock) :
    (ofRuns clock runs).TellsOutage reason := by
  have hconsistent := isConsistent_ofRuns clock runs
  have houtcomes : ∀ o ∈ (ofRuns clock runs).outcomes, o.TellsOutage reason := by
    rw [outcomes_ofRuns]
    exact h.outcomes
  have hcount (status : Status) : ((ofRuns clock runs).outcomesWith status).length =
      Config.outageStatuses.flatten.flatten.count status := by
    rw [length_outcomesWith, outcomes_ofRuns, ← h.statuses_eq]
    simp [SectionRun.outcomes, List.flatMap_def, List.map_flatten, List.flatten_flatten,
      Function.comp_def]
  have hmany : 3 ≤ ((ofRuns clock runs).outcomesWith .fail).length := by
    rw [hcount .fail]
    decide
  have hverdict : (ofRuns clock runs).verdict = .critical := by
    rw [hconsistent.verdict_eq]
    exact Verdict.ofCounts_critical hmany
  refine ⟨fun o ho hinfo => (houtcomes o ho).exists_start hinfo,
    List.eq_nil_of_length_eq_zero (hcount .pass), hcount .fail, hcount .warn, ?_, hverdict,
    congrArg Verdict.exitCode hverdict⟩
  refine List.eq_replicate_iff.mpr ⟨hcount .info, fun o ho => ?_⟩
  obtain ⟨hmem, hinfo⟩ := (hconsistent.mem_iff .info o).mp ho
  exact (houtcomes o hmem).eq_of_info hinfo

end Report

/-! ## Runs -/

/-- What a run of a plan tells that has no connection to the cluster. -/
structure Run.TellsOutage (run : Run σ) (clock : Clock) (plan : List Section) (reason : String)
    (s : σ) : Prop where
  /-- Nothing is asked of the hypervisor. -/
  asked : ∀ e ∈ run.exchanges, Exchange.IsRefused reason e.2
  state_eq : run.state = s
  /-- Every check of the plan tells that there is no connection, and those that only watch tell it
  by a warning. -/
  checks : ∃ runs, run.Tells clock runs ∧
    runs.map (fun sec => sec.checks.map CheckRun.name) =
      plan.map (fun sec => sec.checks.map Check.name) ∧
    runs.map (fun sec => sec.checks.map fun c => c.outcomes.map Outcome.status) =
      Config.outageStatuses ∧
    ∀ (place : Nat) (sec : SectionRun), runs[place]? = some sec → ∀ c ∈ sec.checks,
      (∃ o ∈ c.outcomes, o.status = .warn) ↔ place = Config.monitoringPlace
  report : run.report.TellsOutage reason

/-- For every configuration, every reason why there is no connection and every hypervisor, an audit
tells the reason for each of its checks, and its verdict is critical. -/
theorem audit_tells_outage (config : Config) (reason : String) (host : Hypervisor σ)
    (mode : Mode) (clock : Clock) (s : σ) :
    (mode.run ⟨Cluster.unreachable reason, host⟩ clock config.sections s).TellsOutage clock
      config.sections reason s := by
  have hisolated := config.run_isolated (Cluster.unreachable reason) host mode clock s
  obtain ⟨results, hfollows⟩ :=
    mode.exists_follows ⟨Cluster.unreachable reason, host⟩ clock config.sections s
  have htells : Config.TellsOutage reason
      (config.sections.map (Section.alone ⟨Cluster.unreachable reason, host⟩ s)) :=
    config.tellsOutage_alone
  refine ⟨?asked, ?state, ⟨_, hisolated.tells, ?names, htells.statuses_eq, ?warned⟩, ?report⟩
  case asked =>
    intro e he
    obtain ⟨sec, hsec, hasked⟩ := hisolated.exists_section (hfollows.places_lt e he) he
    obtain ⟨statuses, hsection⟩ := config.exists_tellsOutage sec hsec
    exact hsection.asked e.2 hasked
  case state =>
    have hlogin := config.sections_login
    obtain ⟨statuses, hsection⟩ := config.exists_tellsOutage _ (List.mem_of_getElem? hlogin)
    rw [← hisolated.alike Config.loginPlace _ hlogin rfl]
    exact hsection.state_eq
  case names =>
    rw [List.map_map]
    exact List.map_congr_left hisolated.tellsPlan.names
  case warned =>
    intro place sec hsec c hc
    have hchecks : Config.outageStatuses[place]? =
        some (sec.checks.map fun c => c.outcomes.map Outcome.status) := by
      rw [← htells.statuses_eq, List.getElem?_map, hsec]
      rfl
    rw [← Config.warn_mem_outageStatuses hchecks (List.mem_map_of_mem hc), List.mem_map]
  case report =>
    rw [hisolated.tells.report_eq]
    exact Report.tellsOutage_ofRuns htells clock

end ClusterAudit
