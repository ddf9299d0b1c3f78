-- SUMMARY: The parts of a finished report agree with each other and with all that was told.
import ClusterAudit.Proofs.Telling

/-!
# Consistent reports

The tally counts one outcome at a time, the sections gather the outcomes, and the
verdict is drawn from the tally. In a finished report the three agree, in both
ways to run a plan and whatever the checks give.
-/

namespace ClusterAudit

variable {σ : Type}

/-! ## Counting -/

namespace Tally

/-- The count of a status. What only informs is not counted. -/
def countOf (t : Tally) : Status → Nat
  | .pass => t.passed
  | .fail => t.failed
  | .warn => t.warned
  | .info => 0

/-- The total of a tally is the sum of its counts. -/
def IsBalanced (t : Tally) : Prop := t.total = t.passed + t.failed + t.warned

theorem IsBalanced.record {t : Tally} (h : t.IsBalanced) (o : Outcome) :
    (t.record o).IsBalanced := by
  unfold IsBalanced at h ⊢
  cases ho : o.status <;> simp only [Tally.record, recordStatus, ho] <;> omega

theorem IsBalanced.recordAll {t : Tally} (h : t.IsBalanced) (os : List Outcome) :
    (t.recordAll os).IsBalanced := by
  induction os generalizing t with
  | nil => exact h
  | cons o os ih => exact ih (h.record o)

theorem isBalanced_ofOutcomes (os : List Outcome) : (ofOutcomes os).IsBalanced := by
  have hempty : ({} : Tally).IsBalanced := rfl
  exact hempty.recordAll os

theorem countOf_record (t : Tally) (o : Outcome) {status : Status} (hstatus : status ≠ .info) :
    (t.record o).countOf status = t.countOf status + if o.status = status then 1 else 0 := by
  cases ho : o.status <;> cases status <;> simp_all [record, recordStatus, countOf]

theorem countOf_recordAll (t : Tally) (os : List Outcome) {status : Status}
    (hstatus : status ≠ .info) :
    (t.recordAll os).countOf status = t.countOf status + os.countP (·.status == status) := by
  induction os generalizing t with
  | nil => simp
  | cons o os ih =>
    have hstep : (t.recordAll (o :: os)).countOf status =
        (t.record o).countOf status + os.countP (·.status == status) := ih (t.record o)
    rw [hstep, countOf_record t o hstatus, List.countP_cons]
    simp only [beq_iff_eq]
    omega

/-- A tally counts the outcomes of each status that counts. -/
theorem countOf_ofOutcomes (os : List Outcome) {status : Status} (hstatus : status ≠ .info) :
    (ofOutcomes os).countOf status = os.countP (·.status == status) := by
  have h := countOf_recordAll {} os hstatus
  have hempty : ({} : Tally).countOf status = 0 := by cases status <;> rfl
  rwa [hempty, Nat.zero_add] at h

end Tally

theorem Outcome.count_filter_status (o : Outcome) (status : Status) (os : List Outcome) :
    (os.filter (·.status == status)).count o = if o.status = status then os.count o else 0 := by
  split
  · rename_i h
    exact List.count_filter (by simp [h])
  · rename_i h
    exact List.count_eq_zero.mpr (by simp [h])

/-- Each outcome has exactly one of the four statuses. -/
theorem Outcome.perm_by_status (os : List Outcome) :
    (os.filter (·.status == .pass) ++ os.filter (·.status == .fail)
      ++ os.filter (·.status == .warn) ++ os.filter (·.status == .info)).Perm os := by
  rw [List.perm_iff_count]
  intro o
  simp only [List.count_append, Outcome.count_filter_status]
  cases o.status <;> simp

/-! ## Reports -/

/-- A report whose sections, tally and verdict agree. -/
structure Report.IsConsistent (r : Report) : Prop where
  passed_eq : r.tally.passed = (r.outcomesWith .pass).length
  failed_eq : r.tally.failed = (r.outcomesWith .fail).length
  warned_eq : r.tally.warned = (r.outcomesWith .warn).length
  total_eq : r.tally.total = r.tally.passed + r.tally.failed + r.tally.warned
  total_add_info : r.tally.total + (r.outcomesWith .info).length = r.outcomes.length
  /-- The outcomes of a status keep their order. -/
  sublist : ∀ status, (r.outcomesWith status).Sublist r.outcomes
  mem_iff : ∀ status o, o ∈ r.outcomesWith status ↔ o ∈ r.outcomes ∧ o.status = status
  perm : (r.outcomesWith .pass ++ r.outcomesWith .fail ++ r.outcomesWith .warn
    ++ r.outcomesWith .info).Perm r.outcomes
  verdict_eq : r.verdict = .ofCounts (r.outcomesWith .fail).length (r.outcomesWith .warn).length

/-- A report is consistent if its tally counts its outcomes and gives the verdict. -/
theorem Report.isConsistent_of_tally {r : Report} (htally : r.tally = .ofOutcomes r.outcomes)
    (hverdict : r.verdict = r.tally.verdict) : r.IsConsistent := by
  have hcount (status : Status) (hstatus : status ≠ .info) :
      r.tally.countOf status = (r.outcomesWith status).length := by
    rw [htally, Tally.countOf_ofOutcomes _ hstatus, List.countP_eq_length_filter]
    rfl
  have hpassed := hcount .pass (by decide)
  have hfailed := hcount .fail (by decide)
  have hwarned := hcount .warn (by decide)
  have htotal : r.tally.IsBalanced := htally ▸ Tally.isBalanced_ofOutcomes r.outcomes
  have hperm := Outcome.perm_by_status r.outcomes
  refine ⟨hpassed, hfailed, hwarned, htotal, ?_, ?_, ?_, hperm, ?_⟩
  · have hlength := hperm.length_eq
    simp only [List.length_append] at hlength
    simp only [Tally.IsBalanced, Tally.countOf, outcomesWith] at *
    omega
  · exact fun status => List.filter_sublist
  · simp [outcomesWith]
  · rw [hverdict, Tally.verdict, ← hfailed, ← hwarned]
    rfl

theorem Report.length_outcomesWith (r : Report) (status : Status) :
    (r.outcomesWith status).length = (r.outcomes.map Outcome.status).count status := by
  rw [outcomesWith, ← List.countP_eq_length_filter, List.count, List.countP_map]
  rfl

@[simp] theorem Report.outcomes_ofRuns (clock : Clock) (runs : List SectionRun) :
    (Report.ofRuns clock runs).outcomes = runs.flatMap SectionRun.outcomes := by
  simp [outcomes, ofRuns, List.flatMap_map, SectionRun.report]

theorem Report.isConsistent_ofRuns (clock : Clock) (runs : List SectionRun) :
    (Report.ofRuns clock runs).IsConsistent := by
  refine Report.isConsistent_of_tally ?_ rfl
  rw [Report.outcomes_ofRuns]
  rfl

/-! ## What is told -/

namespace Event

/-- The outcome that is told, if it is one. -/
def outcome? : Event → Option Outcome
  | .outcome o => some o
  | _ => none

/-- The report that is told, if it is one. -/
def report? : Event → Option Report
  | .summary report => some report
  | _ => none

end Event

/-- What is picked of the telling of a run, if neither its start nor a title or a name is. -/
theorem filterMap_eventsOf {α : Type} {f : Event → Option α}
    (hstarted : ∀ time, f (.started time) = none)
    (htitle : ∀ title, f (.sectionTitle title) = none)
    (hname : ∀ name, f (.checkName name) = none) (clock : Clock) (runs : List SectionRun) :
    (eventsOf clock runs).filterMap f =
      (runs.flatMap SectionRun.outcomes).filterMap (fun o => f (.outcome o))
        ++ [Event.summary (Report.ofRuns clock runs)].filterMap f := by
  have hcheck (c : CheckRun) :
      c.events.filterMap f = c.outcomes.filterMap fun o => f (.outcome o) := by
    simp only [CheckRun.events, List.filterMap_cons, hname, List.filterMap_map]
    rfl
  have hsection (s : SectionRun) :
      s.events.filterMap f = s.outcomes.filterMap fun o => f (.outcome o) := by
    simp [SectionRun.events, SectionRun.outcomes, htitle, List.filterMap_flatMap, hcheck]
  simp [eventsOf, hstarted, List.filterMap_flatMap, hsection]

theorem filterMap_outcome?_eventsOf (clock : Clock) (runs : List SectionRun) :
    (eventsOf clock runs).filterMap Event.outcome? = runs.flatMap SectionRun.outcomes := by
  rw [filterMap_eventsOf (fun _ => rfl) (fun _ => rfl) (fun _ => rfl)]
  simp [Event.outcome?]

theorem filterMap_report?_eventsOf (clock : Clock) (runs : List SectionRun) :
    (eventsOf clock runs).filterMap Event.report? = [Report.ofRuns clock runs] := by
  rw [filterMap_eventsOf (fun _ => rfl) (fun _ => rfl) (fun _ => rfl)]
  simp [Event.report?]

/-! ## Runs -/

/-- A run whose report agrees with itself, with the plan and with what was told. -/
structure Run.Agrees (run : Run σ) (plan : List Section) : Prop where
  consistent : run.report.IsConsistent
  titles_eq : run.report.sections.map SectionReport.title = plan.map Section.title
  /-- The outcomes that were told are those in the report. -/
  told_eq : run.events.filterMap Event.outcome? = run.report.outcomes
  /-- One report was told, the one that the run returns. -/
  summary_eq : run.events.filterMap Event.report? = [run.report]

theorem Run.Follows.agrees {run : Run σ} {clock : Clock} {plan : List Section}
    {results : List (List CheckRun)} (h : run.Follows clock plan results) : run.Agrees plan := by
  have htitles : ((plan.zip results).map SectionRun.of).map SectionRun.title =
      plan.map Section.title := by
    have hplan : (plan.zip results).map Prod.fst = plan :=
      List.map_fst_zip (Nat.le_of_eq h.length_eq.symm)
    calc ((plan.zip results).map SectionRun.of).map SectionRun.title
        = ((plan.zip results).map Prod.fst).map Section.title := by simp [SectionRun.of]
      _ = plan.map Section.title := by rw [hplan]
  obtain ⟨hevents, hreport⟩ := h.tells
  refine ⟨?_, ?_, ?_, ?_⟩
  · rw [hreport]
    exact Report.isConsistent_ofRuns clock _
  · rw [hreport, ← htitles, Report.ofRuns, List.map_map]
    rfl
  · rw [hreport, hevents, filterMap_outcome?_eventsOf, Report.outcomes_ofRuns]
  · rw [hreport, hevents, filterMap_report?_eventsOf]

end ClusterAudit
