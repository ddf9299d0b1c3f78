-- SUMMARY: The status with which the program ends after an audit.
import ClusterAudit.CommandLine.Program
import ClusterAudit.Proofs.Layout
import ClusterAudit.Proofs.Rate

/-!
# Endings

A page is stopped by a tally whose share of passed outcomes cannot be calculated.
The tally of an audit is far too small for that, so that every audit ends with
the status of its verdict, with a page as with a report.
-/

namespace ClusterAudit

variable {σ : Type}

/-! ## Pages -/

namespace Console

theorem fault_shownEvent {kubeconfig : String} {event : Event}
    (h : ∀ report, event.report? = some report → report.tally.passed ≤ Tally.rateLimit) :
    (shownEvent kubeconfig event).fault = none := by
  cases event with
  | summary report =>
    have hrate := Tally.successRate_of_le (h report rfl)
    simp only [shownEvent, Console.summary, hrate]
  | _ => rfl

/-- Where every tally that is told has a rate, the whole page is shown. -/
theorem fault_page {kubeconfig : String} {events : List Event}
    (h : ∀ report ∈ events.filterMap Event.report?, report.tally.passed ≤ Tally.rateLimit) :
    (page kubeconfig events).fault = none := by
  induction events with
  | nil => rfl
  | cons event rest ih =>
    have hevent : (shownEvent kubeconfig event).fault = none :=
      fault_shownEvent fun report hreport =>
        h report (List.mem_filterMap.mpr ⟨event, List.mem_cons_self, hreport⟩)
    have hrest := ih fun report hreport => by
      obtain ⟨told, htold, hsome⟩ := List.mem_filterMap.mp hreport
      exact h report (List.mem_filterMap.mpr ⟨told, List.mem_cons_of_mem _ htold, hsome⟩)
    simp only [page, hevent, hrest]

end Console

/-! ## Audits -/

/-- The outcomes of an audit are few enough for their share to be calculated. -/
theorem Run.Follows.passed_le {run : Run σ} {clock : Clock} {c : Config}
    {results : List (List CheckRun)} (h : run.Follows clock c.sections results) :
    run.report.tally.passed ≤ Tally.rateLimit := by
  have hlimit : 19 ≤ Tally.rateLimit := by decide
  have hbalanced : run.report.tally.IsBalanced := h.agrees.consistent.total_eq
  calc run.report.tally.passed ≤ run.report.tally.total := hbalanced.passed_le
    _ ≤ 19 := h.hasShape.total_le_nineteen
    _ ≤ Tally.rateLimit := hlimit

theorem CommandLine.Options.status_ending (o : CommandLine.Options) (coloured : Bool)
    {run : Run σ} {clock : Clock} {results : List (List CheckRun)}
    (h : run.Follows clock o.config.sections results) :
    (o.ending coloured run).status = run.report.verdict.exitCode := by
  have hpage : (Console.page o.config.kubeconfig run.events).fault = none := by
    refine Console.fault_page fun report hreport => ?_
    rw [h.agrees.summary_eq, List.mem_singleton] at hreport
    exact hreport ▸ h.passed_le
  unfold CommandLine.Options.ending
  split
  · rfl
  · simp only [hpage]

theorem CommandLine.status_of_audit (world : CommandLine.Surroundings σ) (schedule : Schedule)
    {arguments : List String} {o : CommandLine.Options}
    (hread : CommandLine.read world.lookUp arguments = .ok (.audit o)) (s : σ) :
    (CommandLine.run world schedule arguments s).1.status =
      ((o.mode schedule).run (world.environment o.config) world.clock o.config.sections
        s).report.verdict.exitCode := by
  obtain ⟨results, hfollows⟩ := (o.mode schedule).exists_follows (world.environment o.config)
    world.clock o.config.sections s
  simp only [CommandLine.run, hread]
  exact o.status_ending _ hfollows

/-- However a plan is run, its report agrees with itself and with what was told, the tally was
balanced all along, and a program that ran it ends with the status of its verdict. -/
theorem finished_report_agrees (mode : Mode) (env : Environment σ) (clock : Clock)
    (plan : List Section) (s : σ) (recorded : List Outcome)
    (world : CommandLine.Surroundings σ) (schedule : Schedule) (arguments : List String)
    (o : CommandLine.Options) :
    (Tally.ofOutcomes recorded).IsBalanced ∧ (mode.run env clock plan s).Agrees plan ∧
    (CommandLine.read world.lookUp arguments = .ok (.audit o) →
      (CommandLine.run world schedule arguments s).1.status =
        ((o.mode schedule).run (world.environment o.config) world.clock o.config.sections
          s).report.verdict.exitCode) := by
  obtain ⟨results, hfollows⟩ := mode.exists_follows env clock plan s
  exact ⟨Tally.isBalanced_ofOutcomes recorded, hfollows.agrees,
    fun hread => CommandLine.status_of_audit world schedule hread s⟩

/-- Surroundings without a kubeconfig and without a network. -/
def CommandLine.Surroundings.bare : CommandLine.Surroundings Unit :=
  { lookUp := fun _ => none, text := fun _ => .error .notFound, bytes := fun _ => none
    clusterNetwork := fun _ _ => return .silent, network := HypervisorApi.disconnected
    clock := default }

/-- An audit side by side that reaches nothing ends as critical. -/
theorem CommandLine.bare_audit_status :
    CommandLine.read CommandLine.Surroundings.bare.lookUp ["--json", "--parallel"] =
      .ok (.audit { json := true, parallel := true }) ∧
    (CommandLine.run .bare [3, 1, 4, 1, 5, 9, 2, 6] ["--json", "--parallel"] ()).1.status = 2 := by
  have hread : CommandLine.read CommandLine.Surroundings.bare.lookUp ["--json", "--parallel"] =
      .ok (.audit { json := true, parallel := true }) := rfl
  have hagrees := finished_report_agrees .sequential
    (CommandLine.Surroundings.bare.environment {}) default [] () [] .bare [3, 1, 4, 1, 5, 9, 2, 6]
    ["--json", "--parallel"] { json := true, parallel := true }
  exact ⟨hread, (hagrees.2.2 hread).trans rfl⟩

end ClusterAudit
