-- SUMMARY: What is told of a run, as a function of what its checks gave.
import ClusterAudit.Proofs.Turns

/-!
# Telling a run

`eventsOf` and `Report.ofRuns` say what is to be told and reported once it is
known what the checks of each section gave. The two ways to run a plan keep their
accounts in different orders of work; both come to this telling, in every world
and under every schedule.
-/

namespace ClusterAudit

variable {σ : Type}

/-! ## What there is to tell -/

structure SectionRun where
  title : String
  checks : List CheckRun
deriving DecidableEq, Repr, Inhabited

/-- What is told of a check. -/
def CheckRun.events (c : CheckRun) : List Event := .checkName c.name :: c.outcomes.map .outcome

namespace SectionRun

/-- A section with what its checks gave. -/
def of : Section × List CheckRun → SectionRun
  | (s, checks) => ⟨s.title, checks⟩

def outcomes (s : SectionRun) : List Outcome := s.checks.flatMap CheckRun.outcomes

def report (s : SectionRun) : SectionReport := ⟨s.title, s.outcomes⟩

def events (s : SectionRun) : List Event :=
  .sectionTitle s.title :: s.checks.flatMap CheckRun.events

end SectionRun

/-- The report on a run. -/
def Report.ofRuns (clock : Clock) (runs : List SectionRun) : Report :=
  let tally := Tally.ofOutcomes (runs.flatMap SectionRun.outcomes)
  { startedAt := clock.started, completedAt := clock.completed
    sections := runs.map SectionRun.report, tally, verdict := tally.verdict }

/-- All that is told of a run. -/
def eventsOf (clock : Clock) (runs : List SectionRun) : List Event :=
  .started clock.started :: runs.flatMap SectionRun.events
    ++ [.summary (Report.ofRuns clock runs)]

/-- A run tells and reports that its sections gave this. -/
structure Run.Tells (run : Run σ) (clock : Clock) (runs : List SectionRun) : Prop where
  events_eq : run.events = eventsOf clock runs
  report_eq : run.report = Report.ofRuns clock runs

/-! ## Accounts -/

@[simp] theorem Tally.recordAll_nil (t : Tally) : t.recordAll [] = t := rfl

theorem Tally.recordAll_append (t : Tally) (os os' : List Outcome) :
    t.recordAll (os ++ os') = (t.recordAll os).recordAll os' := by
  simp [recordAll]

namespace Account

theorem foldl_record (a : Account) (os : List Outcome) :
    os.foldl record a =
      { a with told := a.told ++ os.map .outcome, tally := a.tally.recordAll os
               pending := a.pending ++ os } := by
  induction os generalizing a with
  | nil => simp
  | cons o os ih => simp [ih, record, tell, Tally.recordAll]

theorem check_eq (a : Account) (c : CheckRun) :
    a.check c =
      { a with told := a.told ++ c.events, tally := a.tally.recordAll c.outcomes
               pending := a.pending ++ c.outcomes } := by
  simp [check, foldl_record, tell, CheckRun.events]

theorem foldl_check (a : Account) (cs : List CheckRun) :
    cs.foldl check a =
      { a with told := a.told ++ cs.flatMap CheckRun.events
               tally := a.tally.recordAll (cs.flatMap CheckRun.outcomes)
               pending := a.pending ++ cs.flatMap CheckRun.outcomes } := by
  induction cs generalizing a with
  | nil => simp
  | cons c cs ih => simp [ih, check_eq, Tally.recordAll_append]

theorem section_eq (a : Account) (x : Section × List CheckRun) :
    a.section x =
      { told := a.told ++ (SectionRun.of x).events
        tally := a.tally.recordAll (SectionRun.of x).outcomes
        sections := a.sections ++ [(SectionRun.of x).report] } := by
  obtain ⟨s, checks⟩ := x
  simp [Account.section, openSection, closeSection, foldl_check, tell, SectionRun.of,
    SectionRun.events, SectionRun.report, SectionRun.outcomes]

/-- Whatever is told of sections stands in the order of the sections. -/
theorem foldl_section (a : Account) (hpending : a.pending = [])
    (xs : List (Section × List CheckRun)) :
    xs.foldl Account.section a =
      { told := a.told ++ (xs.map SectionRun.of).flatMap SectionRun.events
        tally := a.tally.recordAll ((xs.map SectionRun.of).flatMap SectionRun.outcomes)
        sections := a.sections ++ (xs.map SectionRun.of).map SectionRun.report } := by
  induction xs generalizing a with
  | nil => cases a; simp_all
  | cons x xs ih => simp [section_eq, ih, Tally.recordAll_append]

end Account

/-- A run that ends after the sections of an account tells what they gave. -/
theorem Progress.finish_tells (clock : Clock) (xs : List (Section × List CheckRun))
    (es : List (Nat × Exchange)) (s s' : σ) :
    (finish ⟨xs.foldl Account.section (start clock s).account, es, s'⟩ clock).Tells clock
      (xs.map SectionRun.of) := by
  rw [Account.foldl_section _ rfl]
  constructor
  · simp [finish, start, Account.tell, Account.report, eventsOf, Report.ofRuns, Tally.ofOutcomes]
  · simp [finish, start, Account.tell, Account.report, Report.ofRuns, Tally.ofOutcomes]

/-! ## In sequence -/

theorem Progress.foldl_check (env : Environment σ) (place : Nat) (cs : List Check)
    (p : Progress σ) :
    cs.foldl (Progress.check env place) p =
      let ran := (cs.mapM Check.named).run env p.state
      ⟨ran.value.foldl Account.check p.account, p.exchanges ++ ran.exchanges.map (place, ·),
        ran.state⟩ := by
  induction cs generalizing p with
  | nil => simp
  | cons c cs ih =>
    simp [ih, Progress.check, Check.named, Probe.run_bind, Ran.afterAll]

theorem Progress.section_eq (env : Environment σ) (place : Nat) (s : Section) (p : Progress σ) :
    p.section env (s, place) =
      let ran := s.probe.run env p.state
      ⟨p.account.section (s, ran.value), p.exchanges ++ ran.exchanges.map (place, ·),
        ran.state⟩ := by
  simp [Progress.section, foldl_check, Section.probe, Account.section]

theorem Progress.foldl_section (env : Environment σ) (number : Nat) (plan : List Section)
    (p : Progress σ) :
    (plan.zipIdx number).foldl (Progress.section env) p =
      let rest := runInOrder env number (plan.map Section.probe) p.state
      ⟨(plan.zip rest.1).foldl Account.section p.account, p.exchanges ++ rest.2.1, rest.2.2⟩ := by
  induction plan generalizing number p with
  | nil => simp [runInOrder]
  | cons s plan ih => simp [runInOrder, Progress.section_eq, ih]

/-- To run in sequence is to run side by side without any turn out of order. -/
theorem runSequential_eq_runConcurrent (env : Environment σ) (clock : Clock) (plan : List Section)
    (s : σ) : runSequential env clock plan s = runConcurrent env [] clock plan s := by
  simp [runSequential, runConcurrent, Progress.foldl_section, Progress.start]

/-- Every way to run a plan is to run it side by side under some schedule. -/
theorem Mode.exists_schedule (mode : Mode) :
    ∃ schedule, ∀ (env : Environment σ) (clock : Clock) (plan : List Section) (s : σ),
      mode.run env clock plan s = runConcurrent env schedule clock plan s := by
  cases mode with
  | sequential => exact ⟨[], runSequential_eq_runConcurrent⟩
  | concurrent schedule => exact ⟨schedule, fun _ _ _ _ => rfl⟩

/-! ## Following the plan -/

/-- A run side by side ends when some schedule has brought all its sections to their ends. -/
theorem exists_turns_of_runConcurrent (env : Environment σ) (schedule : Schedule) (clock : Clock)
    (plan : List Section) (s : σ) :
    ∃ (full : Schedule) (results : List (List CheckRun)) (es : List (Nat × Exchange)) (s' : σ),
      full.foldl (Turns.step env) ⟨plan.map Section.probe, [], s⟩ = ⟨results.map .done, es, s'⟩ ∧
      runConcurrent env schedule clock plan s =
        Progress.finish
          ⟨(plan.zip results).foldl Account.section (Progress.start clock s).account, es, s'⟩
          clock := by
  let turns := schedule.foldl (Turns.step env) ⟨plan.map Section.probe, [], s⟩
  obtain ⟨more, hmore⟩ :=
    Turns.exists_schedule_to_end env [] turns.probes turns.exchanges turns.state
  refine ⟨schedule ++ more, _, _, _, ?_, rfl⟩
  rw [List.foldl_append]
  exact hmore

/-- Each section went along one of its traces to its results, and these are told. -/
structure Run.Follows (run : Run σ) (clock : Clock) (plan : List Section)
    (results : List (List CheckRun)) : Prop where
  length_eq : results.length = plan.length
  places_lt : ∀ e ∈ run.exchanges, e.1 < plan.length
  traces : ∀ (place : Nat) (s : Section) (checks : List CheckRun), plan[place]? = some s →
    results[place]? = some checks → s.probe.Trace (exchangesAt place run.exchanges) checks
  tells : run.Tells clock ((plan.zip results).map SectionRun.of)

/-- In every world and in both ways to run a plan, each section goes along one of its traces. -/
theorem Mode.exists_follows (mode : Mode) (env : Environment σ) (clock : Clock)
    (plan : List Section) (s : σ) :
    ∃ results, (mode.run env clock plan s).Follows clock plan results := by
  obtain ⟨schedule, hschedule⟩ := mode.exists_schedule (σ := σ)
  obtain ⟨full, results, es, s', hturns, hrun⟩ :=
    exists_turns_of_runConcurrent env schedule clock plan s
  have hcontinues := (Turns.continues_start (plan.map Section.probe) s).foldl env full
  rw [hturns] at hcontinues
  have hlength : results.length = plan.length := by simpa using hcontinues.length_eq
  rw [hschedule, hrun]
  refine ⟨results, hlength, ?_, ?_, Progress.finish_tells clock _ es s s'⟩
  · simpa [Progress.finish] using hcontinues.places_lt
  · intro place t checks ht hchecks
    have h := hcontinues.traces place t.probe (.done checks) (by simp [ht]) (by simp [hchecks])
      [] checks (.done checks)
    simpa [Progress.finish] using h

/-! ## Traces of sections -/

/-- The first check of a section goes along a trace of its own, and then the others do. -/
theorem Check.trace_cons {c : Check} {cs : List Check} {es : List Exchange}
    {checks : List CheckRun} (h : ((c :: cs).mapM Check.named).Trace es checks) :
    ∃ es₁ outcomes es₂ rest, es = es₁ ++ es₂ ∧ checks = ⟨c.name, outcomes⟩ :: rest ∧
      c.probe.Trace es₁ outcomes ∧ (cs.mapM Check.named).Trace es₂ rest := by
  rw [List.mapM_cons] at h
  obtain ⟨es₁, run, es₂, rfl, h₁, h₂⟩ := Probe.Trace.of_bind h
  obtain ⟨es₁, outcomes, tail, rfl, hprobe, hrun⟩ := Probe.Trace.of_bind h₁
  obtain ⟨rfl, rfl⟩ := Probe.trace_done_iff.mp hrun
  obtain ⟨es₂, rest, tail, rfl, hrest, hchecks⟩ := Probe.Trace.of_bind h₂
  obtain ⟨rfl, rfl⟩ := Probe.trace_done_iff.mp hchecks
  exact ⟨es₁, outcomes, es₂, rest, by simp, rfl, hprobe, hrest⟩

theorem Check.trace_nil {es : List Exchange} {checks : List CheckRun}
    (h : (([] : List Check).mapM Check.named).Trace es checks) : es = [] ∧ checks = [] := by
  simpa using h

/-- What a section gives carries the names of its checks, in their order. -/
theorem Section.names_of_trace {s : Section} {es : List Exchange} {checks : List CheckRun}
    (h : s.probe.Trace es checks) : checks.map CheckRun.name = s.checks.map Check.name := by
  obtain ⟨title, cs⟩ := s
  unfold Section.probe at h
  induction cs generalizing es checks with
  | nil => simp [(Check.trace_nil h).2]
  | cons c cs ih =>
    obtain ⟨es₁, outcomes, es₂, rest, rfl, rfl, -, hrest⟩ := Check.trace_cons h
    simp [ih hrest]

end ClusterAudit
