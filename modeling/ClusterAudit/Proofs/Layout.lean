-- SUMMARY: The report of every audit has one shape, whatever fails.
import ClusterAudit.Proofs.Findings
import ClusterAudit.Proofs.Reports

/-!
# The layout of a report

Whatever is answered, an audit reports ten sections. How many outcomes each of them has is fixed,
but for the login, which ends at its first failure. All outcomes are counted but two, which may
only inform: that the pods of the controllers were not looked at, and that there are no managed
clusters. So the total is known up to the steps of the login and these two.
-/

namespace ClusterAudit

variable {σ : Type}

/-! ## Outcomes that only inform -/

namespace Report

/-- Which outcomes of the sections only inform. -/
def informs (r : Report) : List (List Bool) :=
  r.sections.map fun s => s.outcomes.map Outcome.informs

/-- The outcome at an index of a section, if there are as many. -/
def outcomeAt? (r : Report) (place index : Nat) : Option Outcome :=
  r.sections[place]?.bind (·.outcomes[index]?)

theorem map_length_informs (r : Report) :
    r.informs.map List.length = r.sections.map fun s => s.outcomes.length := by
  simp [informs, Function.comp_def]

theorem length_flatten_informs (r : Report) : r.informs.flatten.length = r.outcomes.length := by
  simp [informs, outcomes, List.length_flatten, List.length_flatMap, Function.comp_def]

theorem count_flatten_informs (r : Report) :
    r.informs.flatten.count true = (r.outcomesWith .info).length := by
  have hflatten : r.informs.flatten = r.outcomes.map Outcome.informs := by
    simp [informs, outcomes, List.flatMap_def, List.map_flatten, Function.comp_def]
  rw [hflatten, outcomesWith, ← List.countP_eq_length_filter, List.count, List.countP_map]
  congr 1
  funext o
  simp [Outcome.informs]

theorem any_outcomeAt? (r : Report) (place index : Nat) :
    (r.outcomeAt? place index).any Outcome.informs =
      (r.informs[place]?.bind (·[index]?)).any id := by
  simp only [outcomeAt?, informs, List.getElem?_map]
  cases r.sections[place]? with
  | none => rfl
  | some s => cases h : s.outcomes[index]? <;> simp [h]

end Report

theorem one_le_loginSteps (credentials : Option Credentials) (ticket : Option Ticket) :
    1 ≤ loginSteps credentials ticket := by
  unfold loginSteps
  split <;> omega

theorem loginSteps_le_three (credentials : Option Credentials) (ticket : Option Ticket) :
    loginSteps credentials ticket ≤ 3 := by
  unfold loginSteps
  split <;> omega

namespace Findings

theorem length_flatten_informs (f : Findings) :
    f.informs.flatten.length = 16 + loginSteps f.credentials f.ticket := by
  simp [informs]
  omega

/-- The controllers and the managed clusters each account for one outcome that is not counted. -/
theorem count_flatten_informs (f : Findings) :
    f.informs.flatten.count true = (!f.controllers).toNat + f.unmanaged.toNat := by
  simp only [informs]
  cases f.controllers <;> cases f.unmanaged <;> simp [List.count_replicate]

theorem any_getElem?_informs (f : Findings) (place index : Nat) :
    (f.informs[place]?.bind (·[index]?)).any id ↔
      (place = 1 ∧ index = 1 ∧ f.controllers = false) ∨
        (place = 4 ∧ index = 0 ∧ f.unmanaged = true) := by
  match place with
  | 0 | 5 => match index with | 0 | 1 | 2 | _ + 3 => simp [informs]
  | 1 | 2 | 3 | 4 | 6 | 8 | 9 => match index with | 0 | 1 | _ + 2 => simp [informs]
  | 7 =>
    simp only [informs, List.getElem?_cons_succ, List.getElem?_cons_zero, Option.bind_some,
      List.getElem?_replicate]
    split <;> simp
  | _ + 10 => simp [informs]

end Findings

/-! ## Shape -/

/-- The titles of the sections of an audit, in their order. -/
def Config.titles : List String :=
  ["1. Kubernetes Cluster Health", "2. Cluster API Components", "3. Proxmox Provider",
    "4. Proxmox CRDs", "5. Proxmox Custom Resources", "6. Network Stack Health",
    "7. Storage Stack Health", "8. Proxmox API Connectivity", "9. Monitoring Stack",
    "10. Workload Health Summary"]

/-- A report has the shape that follows from what its audit found. -/
structure Report.HasShape (r : Report) (f : Findings) : Prop where
  titles_eq : r.sections.map SectionReport.title = Config.titles
  lengths_eq : (r.sections.map fun s => s.outcomes.length) =
    [3, 2, 1, 1, 1, 3, 2, loginSteps f.credentials f.ticket, 2, 1]
  one_le_steps : 1 ≤ loginSteps f.credentials f.ticket
  steps_le_three : loginSteps f.credentials f.ticket ≤ 3
  /-- It only informs that the pods of the controllers were not looked at, and that there are no
  managed clusters. -/
  informs_iff : ∀ place index, (r.outcomeAt? place index).any Outcome.informs ↔
    (place = 1 ∧ index = 1 ∧ f.controllers = false) ∨
      (place = 4 ∧ index = 0 ∧ f.unmanaged = true)
  total_add_info : r.tally.total + (r.outcomesWith .info).length = r.outcomes.length
  fifteen_le_total : 15 ≤ r.tally.total
  total_le_nineteen : r.tally.total ≤ 19

/-- Each section reported the outcomes that follow from what was found. -/
theorem Run.Follows.informs_eq {run : Run σ} {clock : Clock} {c : Config}
    {results : List (List CheckRun)} (h : run.Follows clock c.sections results) :
    run.report.informs = (Findings.of run.exchanges).informs := by
  have hlength : run.report.informs.length = c.sections.length := by
    simpa only [Report.informs, List.length_map] using
      congrArg List.length h.agrees.titles_eq
  refine c.ext_sections hlength rfl fun place s hs => ?_
  obtain ⟨os, questions, informs, hreported, -, hinforms, hcourse⟩ := h.course hs
  rw [Report.informs, List.getElem?_map, hreported, hinforms, Option.map_some, hcourse.informs_eq]

theorem Run.Follows.hasShape {run : Run σ} {clock : Clock} {c : Config}
    {results : List (List CheckRun)} (h : run.Follows clock c.sections results) :
    run.report.HasShape (.of run.exchanges) := by
  let found := Findings.of run.exchanges
  have hinforms : run.report.informs = found.informs := h.informs_eq
  have hone := one_le_loginSteps found.credentials found.ticket
  have hthree := loginSteps_le_three found.credentials found.ticket
  have htotal := h.agrees.consistent.total_add_info
  have hlength : run.report.outcomes.length = 16 + loginSteps found.credentials found.ticket := by
    rw [← Report.length_flatten_informs, hinforms, Findings.length_flatten_informs]
  have hinfos : (run.report.outcomesWith .info).length ≤ 2 := by
    rw [← Report.count_flatten_informs, hinforms, Findings.count_flatten_informs]
    exact Nat.add_le_add (Bool.toNat_le _) (Bool.toNat_le _)
  refine ⟨h.agrees.titles_eq, ?_, hone, hthree, ?_, htotal, ?_, ?_⟩
  · rw [← Report.map_length_informs, hinforms]
    simp [Findings.informs, found]
  · intro place index
    rw [Report.any_outcomeAt?, hinforms]
    exact found.any_getElem?_informs place index
  · omega
  · omega

/-- Whatever is answered and whichever way an audit is run, its report has the shape that follows
from what the run found; where the cluster does not change, this is what its answers say. -/
theorem audit_has_shape (config : Config) (mode : Mode) (clock : Clock) (s : σ) :
    (∀ env : Environment σ,
      let run := mode.run env clock config.sections s
      run.report.HasShape (.of run.exchanges)) ∧
    ∀ (cluster : Cluster) (hypervisor : Hypervisor σ),
      (mode.run ⟨cluster, hypervisor⟩ clock config.sections s).report.HasShape
        (config.findings cluster hypervisor s) := by
  have hshape (env : Environment σ) :
      let run := mode.run env clock config.sections s
      run.report.HasShape (.of run.exchanges) := by
    obtain ⟨results, hfollows⟩ := mode.exists_follows env clock config.sections s
    exact hfollows.hasShape
  refine ⟨hshape, fun cluster hypervisor => ?_⟩
  rw [← config.findings_run cluster hypervisor s mode clock]
  exact hshape _

end ClusterAudit
