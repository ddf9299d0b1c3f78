-- SUMMARY: No question of an audit fails without an outcome that tells it.
import ClusterAudit.Hypervisor.Client
import ClusterAudit.Proofs.Plan
import ClusterAudit.Proofs.Reports

/-!
# Failures

Each check turns the failures of its questions into outcomes on its own. Along
every trace of a check there are at least as many outcomes of some status as
there are failures: warnings in the checks that only watch, failures in all
others. The sections of a run go along traces of their own, so the counts add
up, whatever answers come and in whatever order.
-/

namespace ClusterAudit

variable {σ : Type} {status : Status}

/-! ## Counts -/

def failureCount (es : List Exchange) : Nat := es.countP Exchange.isFailed

/-- How many of the outcomes have a status. -/
def outcomeCount (status : Status) (os : List Outcome) : Nat := os.countP (·.status == status)

@[simp] theorem failureCount_nil : failureCount [] = 0 := rfl

@[simp] theorem failureCount_cons (e : Exchange) (es : List Exchange) :
    failureCount (e :: es) = failureCount es + if e.isFailed then 1 else 0 :=
  List.countP_cons

@[simp] theorem failureCount_append (es es' : List Exchange) :
    failureCount (es ++ es') = failureCount es + failureCount es' :=
  List.countP_append

@[simp] theorem outcomeCount_append (os os' : List Outcome) :
    outcomeCount status (os ++ os') = outcomeCount status os + outcomeCount status os' :=
  List.countP_append

/-! ## Probes -/

namespace Probe

/-- Along every trace there are as many outcomes of a status as there are failures, together with
those that came before. -/
def TellsFailures (status : Status) (before : Nat) : Probe (List Outcome) → Prop
  | .done os => before ≤ outcomeCount status os
  | .ask q next => ∀ reply, (next reply).TellsFailures status
      (before + if (Exchange.mk q reply).isFailed then 1 else 0)
  | .wait _ next => next.TellsFailures status before

theorem TellsFailures.of_trace {p : Probe (List Outcome)} {before : Nat}
    (h : p.TellsFailures status before) {es : List Exchange} {os : List Outcome}
    (htrace : p.Trace es os) : before + failureCount es ≤ outcomeCount status os := by
  induction htrace generalizing before with
  | done os => exact h
  | ask reply _ ih =>
    have hrest := ih (h reply)
    rw [failureCount_cons]
    omega
  | wait _ ih => exact ih h

end Probe

/-! ## Checks -/

namespace Check

/-- Every failure of a question of the check is told by an outcome of its own. -/
def TellsFailures (c : Check) (status : Status) : Prop := c.probe.TellsFailures status 0

theorem tellsFailures_single (name : String) {q : ClusterQuery} {judge : q.Reply → Outcome}
    (hjudge : ∀ fault, (judge (.error fault)).status = status) :
    (single name q judge).TellsFailures status := by
  intro reply
  cases reply with
  | ok answer => exact Nat.zero_le _
  | error fault =>
    have hone : outcomeCount status [judge (.error fault)] = 1 := by simp [outcomeCount, hjudge]
    exact Nat.le_of_eq hone.symm

/-- A namespace that is not there keeps the second question from being asked. -/
theorem tellsFailures_controllers (ns : String) : (controllers ns).TellsFailures .fail := by
  intro reply
  -- Once the replies are known to be failures or not, both counts are numerals.
  match reply with
  | .error _ => exact Nat.le_refl 1
  | .ok none => exact Nat.zero_le _
  | .ok (some _) =>
    intro pods
    cases pods with
    | ok pods => exact Nat.zero_le _
    | error fault => exact Nat.le_refl 1

theorem tellsFailures_provider (ns : String) : (provider ns).TellsFailures .fail := by
  intro reply
  match reply with
  | .error _ => exact Nat.le_refl 1
  | .ok none => exact Nat.zero_le _
  | .ok (some _) =>
    intro pods
    cases pods with
    | ok pods => exact Nat.zero_le _
    | error fault => exact Nat.le_refl 1

theorem tellsFailures_logIn (c : Credentials) :
    ((logIn c).bind fun os => .done (loadedOutcome c :: os)).TellsFailures .fail 0 := by
  intro ticket
  cases ticket with
  | error failure => exact Nat.le_refl 1
  | ok ticket =>
    intro version
    cases version with
    | error failure => exact Nat.le_refl 1
    | ok version => exact Nat.zero_le _

/-- The first step of a login that fails is its last. -/
theorem tellsFailures_hypervisor (place : SecretPlace) :
    (hypervisor place).TellsFailures .fail := by
  intro reply
  match reply with
  | .error _ => exact Nat.le_refl 1
  | .ok none => exact Nat.zero_le _
  | .ok (some secret) =>
    simp only [Probe.bind_def, Probe.done_bind, credentialsOf]
    cases Credentials.ofSecret secret with
    | error failure => exact Nat.zero_le _
    | ok credentials => exact tellsFailures_logIn credentials

end Check

theorem Component.tellsFailures_check (c : Component) :
    c.check.TellsFailures c.whenUnreachable :=
  Check.tellsFailures_single _ fun _ => rfl

/-! ## Sections -/

theorem Section.failureCount_le {s : Section} (h : ∀ c ∈ s.checks, c.TellsFailures status)
    {es : List Exchange} {checks : List CheckRun} (htrace : s.probe.Trace es checks) :
    failureCount es ≤ outcomeCount status (checks.flatMap CheckRun.outcomes) := by
  obtain ⟨title, cs⟩ := s
  unfold Section.probe at htrace
  induction cs generalizing es checks with
  | nil => simp [(Check.trace_nil htrace).1]
  | cons c cs ih =>
    obtain ⟨es₁, outcomes, es₂, rest, rfl, rfl, hcheck, hrest⟩ := Check.trace_cons htrace
    have hfirst := (h c List.mem_cons_self).of_trace hcheck
    have hothers := ih (fun c' hc' => h c' (List.mem_cons_of_mem c hc')) hrest
    simp only [failureCount_append, List.flatMap_cons, outcomeCount_append]
    omega

namespace Config

/-- The place of the checks that only watch. -/
def monitoringPlace : Nat := 8

/-- With which status the checks at a place tell that a question failed. -/
def failureStatus (place : Nat) : Status := if place = monitoringPlace then .warn else .fail

theorem tellsFailures (c : Config) {place : Nat} {s : Section}
    (hs : c.sections[place]? = some s) :
    ∀ check ∈ s.checks, check.TellsFailures (failureStatus place) := by
  match place, hs with
  | 0, rfl =>
    simp only [List.forall_mem_cons]
    exact ⟨Check.tellsFailures_single _ fun _ => rfl, Check.tellsFailures_single _ fun _ => rfl,
      Check.tellsFailures_single _ fun _ => rfl, nofun⟩
  | 1, rfl =>
    simp only [List.forall_mem_singleton]
    exact Check.tellsFailures_controllers _
  | 2, rfl =>
    simp only [List.forall_mem_singleton]
    exact Check.tellsFailures_provider _
  | 3, rfl | 4, rfl | 9, rfl =>
    simp only [List.forall_mem_singleton]
    exact Check.tellsFailures_single _ fun _ => rfl
  | 5, rfl =>
    simp only [List.forall_mem_cons]
    exact ⟨Component.tellsFailures_check _, Component.tellsFailures_check _,
      Component.tellsFailures_check _, nofun⟩
  | 6, rfl =>
    simp only [List.forall_mem_cons]
    exact ⟨Check.tellsFailures_single _ fun _ => rfl, Check.tellsFailures_single _ fun _ => rfl,
      nofun⟩
  | 7, rfl =>
    simp only [List.forall_mem_singleton]
    exact Check.tellsFailures_hypervisor _
  | 8, rfl =>
    simp only [List.forall_mem_cons]
    exact ⟨Component.tellsFailures_check _, Component.tellsFailures_check _, nofun⟩

end Config

/-! ## Places -/

theorem exchangesAt_filter (place : Nat) (keep : Nat → Bool) (es : List (Nat × Exchange)) :
    exchangesAt place (es.filter fun e => keep e.1) =
      if keep place then exchangesAt place es else [] := by
  unfold exchangesAt
  rw [List.filter_filter]
  split
  · rename_i hkeep
    congr 1
    refine List.filter_congr fun e _ => ?_
    by_cases he : e.1 = place <;> simp [he, hkeep]
  · rename_i hkeep
    have hnone : ∀ e ∈ es, ¬ (e.1 == place && keep e.1) = true := by
      intro e _ he
      simp only [Bool.and_eq_true, beq_iff_eq] at he
      exact hkeep (he.1 ▸ he.2)
    rw [List.filter_eq_nil_iff.mpr hnone]
    rfl

/-- The failures of one place and those of all others. -/
theorem failureCount_split (place : Nat) (es : List (Nat × Exchange)) :
    failureCount (es.map Prod.snd) =
      failureCount (exchangesAt place es) +
        failureCount ((es.filter fun e => e.1 != place).map Prod.snd) := by
  induction es with
  | nil => rfl
  | cons e es ih =>
    by_cases he : e.1 = place
    · simp [exchangesAt, he, ih]
      omega
    · simp [exchangesAt, he, ih]
      omega

/-- If each place tells its failures, all failures are told. -/
theorem failureCount_le_of_places {runs : List (List Outcome)} {es : List (Nat × Exchange)}
    (number : Nat) (hplaces : ∀ e ∈ es, number ≤ e.1 ∧ e.1 < number + runs.length)
    (h : ∀ (i : Nat) (os : List Outcome), runs[i]? = some os →
      failureCount (exchangesAt (number + i) es) ≤ outcomeCount status os) :
    failureCount (es.map Prod.snd) ≤ outcomeCount status runs.flatten := by
  induction runs generalizing es number with
  | nil =>
    cases es with
    | nil => exact Nat.le_refl 0
    | cons e es =>
      obtain ⟨hle, hlt⟩ := hplaces e List.mem_cons_self
      simp only [List.length_nil] at hlt
      omega
  | cons os runs ih =>
    have hfirst : failureCount (exchangesAt number es) ≤ outcomeCount status os := h 0 os rfl
    have hrest : failureCount ((es.filter fun e => e.1 != number).map Prod.snd) ≤
        outcomeCount status runs.flatten := by
      refine ih (number + 1) ?_ ?_
      · intro e he
        obtain ⟨hmem, hne⟩ := List.mem_filter.mp he
        have hplace := hplaces e hmem
        simp only [List.length_cons, bne_iff_ne] at hplace hne
        omega
      · intro i os' hos'
        have hother : (number + 1 + i != number) = true := bne_iff_ne.mpr (by omega)
        rw [exchangesAt_filter _ (· != number), if_pos hother, Nat.add_right_comm, Nat.add_assoc]
        exact h (i + 1) os' hos'
    rw [failureCount_split number es, List.flatten_cons, outcomeCount_append]
    omega

/-! ## Runs -/

/-- How many questions failed at the places that are kept. -/
def Run.failuresWhere (run : Run σ) (keep : Nat → Bool) : Nat :=
  failureCount ((run.exchanges.filter fun e => keep e.1).map Prod.snd)

/-- The failures at some places are told with a status, if each of these places tells its own. -/
theorem Run.Follows.failuresWhere_le {run : Run σ} {clock : Clock} {plan : List Section}
    {results : List (List CheckRun)} (h : run.Follows clock plan results) (keep : Nat → Bool)
    (hchecks : ∀ (place : Nat) (s : Section), plan[place]? = some s → keep place →
      ∀ c ∈ s.checks, c.TellsFailures status) :
    run.failuresWhere keep ≤ outcomeCount status run.report.outcomes := by
  have hruns : run.report.outcomes =
      (results.map fun checks => checks.flatMap CheckRun.outcomes).flatten := by
    have hresults : (plan.zip results).map Prod.snd = results :=
      List.map_snd_zip (Nat.le_of_eq h.length_eq)
    calc run.report.outcomes
        = ((plan.zip results).map SectionRun.of).flatMap SectionRun.outcomes := by
          rw [h.tells.report_eq, Report.outcomes_ofRuns]
      _ = (((plan.zip results).map Prod.snd).map fun checks =>
            checks.flatMap CheckRun.outcomes).flatten := by
          rw [List.flatMap_map, List.map_map, List.flatMap_def]
          rfl
      _ = _ := by rw [hresults]
  rw [hruns]
  refine failureCount_le_of_places 0 ?_ ?_
  · intro e he
    have hlt := h.places_lt e (List.mem_filter.mp he).1
    rw [List.length_map, h.length_eq]
    omega
  · intro place os hos
    rw [List.getElem?_map, Option.map_eq_some_iff] at hos
    obtain ⟨checks, hplace, rfl⟩ := hos
    rw [Nat.zero_add, exchangesAt_filter]
    split
    · rename_i hkeep
      have hlt : place < plan.length := by
        rw [← h.length_eq]
        exact (List.getElem?_eq_some_iff.mp hplace).1
      have hsection : plan[place]? = some plan[place] := List.getElem?_eq_getElem hlt
      exact Section.failureCount_le (hchecks place _ hsection hkeep)
        (h.traces place _ checks hsection hplace)
    · exact Nat.zero_le _

/-- The failures outside the checks that only watch. -/
def Run.failures (run : Run σ) : Nat := run.failuresWhere (· != Config.monitoringPlace)

/-- The failures in the checks that only watch. -/
def Run.watchFailures (run : Run σ) : Nat := run.failuresWhere (· == Config.monitoringPlace)

theorem Verdict.ofCounts_ne_healthy {failed warned : Nat} (h : 1 ≤ failed) :
    Verdict.ofCounts failed warned ≠ .healthy := by
  unfold Verdict.ofCounts
  rw [if_neg (by omega)]
  split <;> simp

theorem Verdict.ofCounts_critical {failed warned : Nat} (h : 3 ≤ failed) :
    Verdict.ofCounts failed warned = .critical := by
  unfold Verdict.ofCounts failureLimit
  rw [if_neg (by omega), if_neg (by omega)]

/-- Whatever the cluster and the hypervisor answer, an audit counts a failure for every question
that fails and a warning for those of the checks that only watch, and judges accordingly. -/
theorem audit_tells_failures (config : Config) (env : Environment σ) (mode : Mode) (clock : Clock)
    (s : σ) :
    let run := mode.run env clock config.sections s
    run.failures ≤ run.report.tally.failed ∧ run.watchFailures ≤ run.report.tally.warned ∧
    (1 ≤ run.failures → run.report.verdict ≠ .healthy) ∧
    (3 ≤ run.failures → run.report.verdict = .critical) := by
  intro run
  obtain ⟨results, hfollows⟩ := mode.exists_follows env clock config.sections s
  have hconsistent := hfollows.agrees.consistent
  have hfailed : run.failures ≤ run.report.tally.failed := by
    rw [hconsistent.failed_eq, Report.outcomesWith, ← List.countP_eq_length_filter]
    refine hfollows.failuresWhere_le _ fun place sec hsec hkeep => ?_
    have hstatus : Config.failureStatus place = .fail := if_neg (bne_iff_ne.mp hkeep)
    exact hstatus ▸ config.tellsFailures hsec
  have hwarned : run.watchFailures ≤ run.report.tally.warned := by
    rw [hconsistent.warned_eq, Report.outcomesWith, ← List.countP_eq_length_filter]
    refine hfollows.failuresWhere_le _ fun place sec hsec hkeep => ?_
    have hstatus : Config.failureStatus place = .warn := if_pos (beq_iff_eq.mp hkeep)
    exact hstatus ▸ config.tellsFailures hsec
  have hverdict : run.report.verdict =
      .ofCounts run.report.tally.failed run.report.tally.warned := by
    rw [hconsistent.verdict_eq, hconsistent.failed_eq, hconsistent.warned_eq]
  refine ⟨hfailed, hwarned, fun hone => ?_, fun hthree => ?_⟩
  · rw [hverdict]
    exact Verdict.ofCounts_ne_healthy (Nat.le_trans hone hfailed)
  · rw [hverdict]
    exact Verdict.ofCounts_critical (Nat.le_trans hthree hfailed)

/-- Where nothing is reached, fourteen questions fail besides the two that only watch. -/
theorem audit_tells_failures_unreachable :
    let env : Environment Unit :=
      ⟨Cluster.unreachable "down", HypervisorApi.client HypervisorApi.disconnected {}⟩
    let run := (Mode.concurrent [7, 8, 0, 8]).run env default (default : Config).sections ()
    run.failures = 14 ∧ run.watchFailures = 2 ∧ run.report.verdict ≠ .healthy ∧
      run.report.verdict = .critical := by
  intro env run
  have htold := audit_tells_failures default env (.concurrent [7, 8, 0, 8]) default ()
  have hfailures : run.failures = 14 := rfl
  have hone : 1 ≤ run.failures := by omega
  have hthree : 3 ≤ run.failures := by omega
  exact ⟨hfailures, rfl, htold.2.2.1 hone, htold.2.2.2 hthree⟩

end ClusterAudit
