-- SUMMARY: Sections that cannot tell each other's questions run side by side as each runs alone.
import ClusterAudit.Proofs.Plan
import ClusterAudit.Proofs.Telling

/-!
# Isolation

The world may change with every question, so in general a section gets other
answers beside the others than alone. What a section can tell of the world is
kept as a relation for each place: two states that are alike to a place answer
it alike. If no probe ever takes the world to a state that is not alike to
another place, then every schedule leaves each place with the run that it would
have had alone.

There are two such cases: a world whose answers do not depend on its state, and
the plan of an audit, where only the login asks the hypervisor.
-/

namespace ClusterAudit

variable {σ α : Type}

/-! ## Questions and relations on states -/

namespace Environment

/-- The question is answered alike in related states, and the states after it are related. -/
def Respects (env : Environment σ) (R : σ → σ → Prop) (q : Question) : Prop :=
  ∀ s t, R s t → (env.answer q s).1 = (env.answer q t).1 ∧ R (env.answer q s).2 (env.answer q t).2

/-- The state after the question is related to whatever the state before it was related to. -/
def Hides (env : Environment σ) (R : σ → σ → Prop) (q : Question) : Prop :=
  ∀ s t, R s t → R s (env.answer q t).2

/-- The question of a place is answered by what the place can tell, and no other place can tell
that it was asked. -/
def Apart (env : Environment σ) (alike : Nat → σ → σ → Prop) (place : Nat) (q : Question) : Prop :=
  env.Respects (alike place) q ∧ ∀ other, other ≠ place → env.Hides (alike other) q

end Environment

namespace Probe

variable {env : Environment σ} {R : σ → σ → Prop}

theorem AsksOnly.step {kind : Question → Prop} {p : Probe α} (h : p.AsksOnly kind)
    (env : Environment σ) (s : σ) : (p.step env s).1.AsksOnly kind := by
  cases p with
  | done value => trivial
  | ask q next => exact h.2 _
  | wait milliseconds next => exact h

/-- A probe takes the same turn in states that it cannot tell apart. -/
theorem step_of_respects {p : Probe α} (h : p.AsksOnly (env.Respects R)) {s t : σ} (hst : R s t) :
    (p.step env s).1 = (p.step env t).1 ∧ (p.step env s).2.1 = (p.step env t).2.1 ∧
      R (p.step env s).2.2 (p.step env t).2.2 := by
  cases p with
  | done value => exact ⟨rfl, rfl, hst⟩
  | ask q next =>
    obtain ⟨hreply, hafter⟩ := h.1 s t hst
    simp only [step_ask]
    exact ⟨by rw [hreply], by rw [hreply], hafter⟩
  | wait milliseconds next => exact ⟨rfl, rfl, hst⟩

theorem step_of_hides {p : Probe α} (h : p.AsksOnly (env.Hides R)) {s t : σ} (hst : R s t) :
    R s (p.step env t).2.2 := by
  cases p with
  | done value => exact hst
  | ask q next => exact h.1 s t hst
  | wait milliseconds next => exact hst

end Probe

/-! ## Turns -/

namespace Turns

/-- Every place is on its way through the run that its probe has alone from a state. What is left
of that run starts from a state that the place cannot tell from the state of the world. -/
structure Isolated (turns : Turns σ α) (env : Environment σ) (alike : Nat → σ → σ → Prop)
    (probes : List (Probe α)) (s : σ) : Prop where
  length_eq : turns.probes.length = probes.length
  apart : ∀ (place : Nat) (p : Probe α), turns.probes[place]? = some p →
    p.AsksOnly (env.Apart alike place)
  runs : ∀ (place : Nat) (p p' : Probe α), probes[place]? = some p →
    turns.probes[place]? = some p' →
    ∃ t, alike place t turns.state ∧
      (p'.run env t).afterAll (exchangesAt place turns.exchanges) = p.run env s

variable {env : Environment σ} {alike : Nat → σ → σ → Prop} {probes : List (Probe α)} {s : σ}

theorem isolated_start (hrefl : ∀ place, alike place s s)
    (hapart : ∀ (place : Nat) (p : Probe α), probes[place]? = some p →
      p.AsksOnly (env.Apart alike place)) :
    (⟨probes, [], s⟩ : Turns σ α).Isolated env alike probes s where
  length_eq := rfl
  apart := hapart
  runs := by
    intro place p p' hp hp'
    cases hp.symm.trans hp'
    exact ⟨s, hrefl place, rfl⟩

theorem Isolated.step {turns : Turns σ α} (h : turns.Isolated env alike probes s) (place : Nat) :
    (turns.step env place).Isolated env alike probes s := by
  cases hplace : turns.probes[place]? with
  | none => rwa [step_of_none hplace]
  | some p =>
    have hlt : place < turns.probes.length := (List.getElem?_eq_some_iff.mp hplace).1
    have hp := h.apart place p hplace
    rw [step_of_some hplace]
    refine ⟨by simp [h.length_eq], ?_, ?_⟩
    · intro other p' hp'
      by_cases hother : place = other
      · subst hother
        obtain rfl : (p.step env turns.state).1 = p' := by
          simpa [List.getElem?_set, hlt] using hp'
        exact hp.step env turns.state
      · rw [List.getElem?_set_ne hother] at hp'
        exact h.apart other p' hp'
    · intro other p₀ p' hp₀ hp'
      by_cases hother : place = other
      · -- The place goes on as it would have done alone.
        subst hother
        obtain rfl : (p.step env turns.state).1 = p' := by
          simpa [List.getElem?_set, hlt] using hp'
        obtain ⟨t, ht, hrun⟩ := h.runs place p₀ p hp₀ hplace
        obtain ⟨hprobe, hexchanges, hstate⟩ :=
          Probe.step_of_respects (hp.mono fun _ hq => hq.1) ht
        refine ⟨(p.step env t).2.2, hstate, ?_⟩
        rw [← hrun, ← Probe.run_step env p t, hprobe, hexchanges]
        simp [Ran.afterAll]
      · -- Another place cannot tell.
        rw [List.getElem?_set_ne hother] at hp'
        obtain ⟨t, ht, hrun⟩ := h.runs other p₀ p' hp₀ hp'
        have hhides := hp.mono fun _ hq => hq.2 other (Ne.symm hother)
        exact ⟨t, Probe.step_of_hides hhides ht, by simpa [exchangesAt_other hother] using hrun⟩

theorem Isolated.foldl {turns : Turns σ α} (h : turns.Isolated env alike probes s)
    (schedule : Schedule) :
    (schedule.foldl (Turns.step env) turns).Isolated env alike probes s := by
  induction schedule generalizing turns with
  | nil => exact h
  | cons place schedule ih => exact ih (h.step place)

/-- A place that has come to its end had the run of its probe alone. -/
theorem Isolated.ended {turns : Turns σ α} (h : turns.Isolated env alike probes s) {place : Nat}
    {p : Probe α} {value : α} (hp : probes[place]? = some p)
    (hdone : turns.probes[place]? = some (.done value)) :
    (p.run env s).value = value ∧ (p.run env s).exchanges = exchangesAt place turns.exchanges ∧
      alike place (p.run env s).state turns.state := by
  obtain ⟨t, ht, hrun⟩ := h.runs place p _ hp hdone
  rw [← hrun]
  exact ⟨rfl, by simp [Ran.afterAll], ht⟩

end Turns

/-! ## Runs -/

/-- What the checks of a section give when no other section is there. -/
def Section.alone (env : Environment σ) (s : σ) (sec : Section) : SectionRun :=
  ⟨sec.title, (sec.probe.run env s).value⟩

/-- Each section had the run that it has alone from a state. -/
structure Run.Isolated (run : Run σ) (env : Environment σ) (alike : Nat → σ → σ → Prop)
    (clock : Clock) (plan : List Section) (s : σ) : Prop where
  tells : run.Tells clock (plan.map (Section.alone env s))
  exchanges_eq : ∀ (place : Nat) (sec : Section), plan[place]? = some sec →
    exchangesAt place run.exchanges = (sec.probe.run env s).exchanges
  alike : ∀ (place : Nat) (sec : Section), plan[place]? = some sec →
    alike place (sec.probe.run env s).state run.state

/-- Every question of a run is one that a section has alone. -/
theorem Run.Isolated.exists_section {run : Run σ} {env : Environment σ}
    {alike : Nat → σ → σ → Prop} {clock : Clock} {plan : List Section} {s : σ}
    (h : run.Isolated env alike clock plan s) {e : Nat × Exchange} (hlt : e.1 < plan.length)
    (he : e ∈ run.exchanges) : ∃ sec ∈ plan, e.2 ∈ (sec.probe.run env s).exchanges := by
  have hplace : plan[e.1]? = some plan[e.1] := List.getElem?_eq_getElem hlt
  have hasked : e.2 ∈ exchangesAt e.1 run.exchanges :=
    List.mem_map_of_mem (List.mem_filter.mpr ⟨he, beq_self_eq_true e.1⟩)
  rw [h.exchanges_eq e.1 _ hplace] at hasked
  exact ⟨plan[e.1], List.getElem_mem hlt, hasked⟩

/-- Sections that keep apart run as they do alone, whichever way their plan is run. -/
theorem Mode.run_isolated {env : Environment σ} {alike : Nat → σ → σ → Prop} {plan : List Section}
    {s : σ} (hrefl : ∀ place, alike place s s)
    (hapart : ∀ (place : Nat) (sec : Section), plan[place]? = some sec →
      sec.probe.AsksOnly (env.Apart alike place)) (mode : Mode) (clock : Clock) :
    (mode.run env clock plan s).Isolated env alike clock plan s := by
  obtain ⟨schedule, hschedule⟩ := mode.exists_schedule (σ := σ)
  obtain ⟨full, results, es, s', hturns, hrun⟩ :=
    exists_turns_of_runConcurrent env schedule clock plan s
  have hisolated : Turns.Isolated ⟨results.map .done, es, s'⟩ env alike
      (plan.map Section.probe) s := by
    rw [← hturns]
    refine Turns.Isolated.foldl (Turns.isolated_start hrefl ?_) full
    intro place p hp
    rw [List.getElem?_map, Option.map_eq_some_iff] at hp
    obtain ⟨sec, hsec, rfl⟩ := hp
    exact hapart place sec hsec
  have hlength : results.length = plan.length := by simpa using hisolated.length_eq
  have hended (place : Nat) (sec : Section) (hsec : plan[place]? = some sec) :
      results[place]? = some (sec.probe.run env s).value ∧
        (sec.probe.run env s).exchanges = exchangesAt place es ∧
        alike place (sec.probe.run env s).state s' := by
    have hlt : place < results.length := by
      rw [hlength]
      exact (List.getElem?_eq_some_iff.mp hsec).1
    have hp : (plan.map Section.probe)[place]? = some sec.probe := by simp [hsec]
    have hdone : (results.map Probe.done)[place]? = some (.done results[place]) := by simp [hlt]
    obtain ⟨hvalue, hrest⟩ := hisolated.ended hp hdone
    exact ⟨by simp [hvalue, hlt], hrest⟩
  have hresults : results = plan.map fun sec => (sec.probe.run env s).value := by
    refine List.ext_getElem? fun place => ?_
    cases hsec : plan[place]? with
    | none => simp_all
    | some sec => simp [hsec, (hended place sec hsec).1]
  rw [hschedule, hrun]
  refine ⟨?_, fun place sec hsec => (hended place sec hsec).2.1.symm,
    fun place sec hsec => (hended place sec hsec).2.2⟩
  have hruns : (plan.zip results).map SectionRun.of = plan.map (Section.alone env s) := by
    have hzip := List.zip_map' (f := id) (g := fun sec => (sec.probe.run env s).value) (l := plan)
    rw [List.map_id] at hzip
    rw [hresults, hzip, List.map_map]
    rfl
  rw [← hruns]
  exact Progress.finish_tells clock _ es s s'

/-! ## Times -/

/-- An event without the times in it. -/
def Event.untimed : Event → Event
  | .started _ => .started default
  | .summary report => .summary { report with startedAt := default, completedAt := default }
  | e => e

/-- Two runs that tell and report the same, but for the times at which they start and end. -/
structure Run.SameButTimes (run run' : Run σ) : Prop where
  events_eq : run.events.map Event.untimed = run'.events.map Event.untimed
  sections_eq : run.report.sections = run'.report.sections
  tally_eq : run.report.tally = run'.report.tally
  verdict_eq : run.report.verdict = run'.report.verdict
  /-- Where the times are the same as well, nothing is left to differ. -/
  eq_of_times : run.report.startedAt = run'.report.startedAt →
    run.report.completedAt = run'.report.completedAt →
    run.events = run'.events ∧ run.report = run'.report

theorem CheckRun.untimed_events (c : CheckRun) : c.events.map Event.untimed = c.events := by
  simp [CheckRun.events, Event.untimed, Function.comp_def]

theorem SectionRun.untimed_events (s : SectionRun) : s.events.map Event.untimed = s.events := by
  simp [SectionRun.events, Event.untimed, List.map_flatMap, CheckRun.untimed_events]

theorem untimed_eventsOf (clock clock' : Clock) (runs : List SectionRun) :
    (eventsOf clock runs).map Event.untimed = (eventsOf clock' runs).map Event.untimed := by
  simp [eventsOf, Event.untimed, Report.ofRuns]

theorem Run.Tells.sameButTimes {run run' : Run σ} {clock clock' : Clock} {runs : List SectionRun}
    (h : run.Tells clock runs) (h' : run'.Tells clock' runs) : run.SameButTimes run' := by
  obtain ⟨hevents, hreport⟩ := h
  obtain ⟨hevents', hreport'⟩ := h'
  refine ⟨?_, ?_, ?_, ?_, ?_⟩
  · rw [hevents, hevents']
    exact untimed_eventsOf clock clock' runs
  · rw [hreport, hreport']
    rfl
  · rw [hreport, hreport']
    rfl
  · rw [hreport, hreport']
    rfl
  · intro hstarted hcompleted
    rw [hreport, hreport'] at hstarted hcompleted
    obtain rfl : clock = clock' := by
      cases clock
      cases hstarted
      cases hcompleted
      rfl
    rw [hevents, hevents', hreport, hreport']
    exact ⟨rfl, rfl⟩

/-! ## Steady worlds -/

/-- Every answer depends on the question alone, whatever was asked before. -/
def Environment.IsSteady (env : Environment σ) : Prop :=
  ∀ q s t, (env.answer q s).1 = (env.answer q t).1

theorem Environment.IsSteady.apart {env : Environment σ} (h : env.IsSteady) (place : Nat)
    (q : Question) : env.Apart (fun _ _ _ => True) place q :=
  ⟨fun s t _ => ⟨h q s t, trivial⟩, fun _ _ _ _ _ => trivial⟩

/-- In a steady world every section of every plan runs as it does alone. -/
theorem Environment.IsSteady.run_isolated {env : Environment σ} (h : env.IsSteady) (mode : Mode)
    (clock : Clock) (plan : List Section) (s : σ) :
    (mode.run env clock plan s).Isolated env (fun _ _ _ => True) clock plan s :=
  Mode.run_isolated (fun _ => trivial) (fun place _ _ => Probe.asksOnly_of_forall (h.apart place) _)
    mode clock

/-! ## Audits -/

namespace Config

/-- Beside a cluster that does not change, only the login can tell states apart. -/
def alikeAt (place : Nat) (s t : σ) : Prop := place = loginPlace → s = t

theorem sections_apart (c : Config) (cluster : Cluster) (hypervisor : Hypervisor σ) {place : Nat}
    {sec : Section} (hsec : c.sections[place]? = some sec) :
    sec.probe.AsksOnly (Environment.Apart ⟨cluster, hypervisor⟩ alikeAt place) := by
  by_cases hplace : place = loginPlace
  · subst hplace
    refine Probe.asksOnly_of_forall (fun q => ⟨fun s t hst => ?_, fun other hother => ?_⟩) _
    · obtain rfl := hst rfl
      exact ⟨rfl, fun _ => rfl⟩
    · exact fun s t _ hlogin => absurd hlogin hother
  · refine (asksOnly_plain hsec hplace).mono fun q hq => ?_
    match q, hq with
    | .cluster _, _ =>
      exact ⟨fun s t _ => ⟨rfl, fun hlogin => absurd hlogin hplace⟩, fun _ _ _ _ hst => hst⟩

/-- Every section of an audit runs as it does alone, the login included. -/
theorem run_isolated (c : Config) (cluster : Cluster) (hypervisor : Hypervisor σ) (mode : Mode)
    (clock : Clock) (s : σ) :
    (mode.run ⟨cluster, hypervisor⟩ clock c.sections s).Isolated ⟨cluster, hypervisor⟩ alikeAt
      clock c.sections s :=
  Mode.run_isolated (fun _ _ => rfl) (fun _ _ hsec => c.sections_apart cluster hypervisor hsec)
    mode clock

end Config

/-! ## Refinement -/

/-- A run tells the sections of a plan in order, each with its checks by name and with what they
give alone. -/
structure Run.TellsPlan (run : Run σ) (env : Environment σ) (clock : Clock) (plan : List Section)
    (s : σ) : Prop where
  tells : run.Tells clock (plan.map (Section.alone env s))
  names : ∀ sec ∈ plan, (sec.alone env s).checks.map CheckRun.name = sec.checks.map Check.name

theorem Run.Isolated.tellsPlan {run : Run σ} {env : Environment σ} {alike : Nat → σ → σ → Prop}
    {clock : Clock} {plan : List Section} {s : σ} (h : run.Isolated env alike clock plan s) :
    run.TellsPlan env clock plan s :=
  ⟨h.tells, fun sec _ => Section.names_of_trace (Probe.trace_run env sec.probe s)⟩

/-- Under a schedule, a run of a plan side by side tells the same as a run in sequence. -/
structure Schedule.Refines (schedule : Schedule) (env : Environment σ) (plan : List Section)
    (s : σ) (clock' clock : Clock) : Prop where
  same : (runConcurrent env schedule clock' plan s).SameButTimes (runSequential env clock plan s)
  concurrent : (runConcurrent env schedule clock' plan s).TellsPlan env clock' plan s
  sequential : (runSequential env clock plan s).TellsPlan env clock plan s

theorem Schedule.refines_of_isolated {schedule : Schedule} {env : Environment σ}
    {alike : Nat → σ → σ → Prop} {plan : List Section} {s : σ}
    (h : ∀ (mode : Mode) (clock : Clock),
      (mode.run env clock plan s).Isolated env alike clock plan s) (clock' clock : Clock) :
    schedule.Refines env plan s clock' clock := by
  have hconcurrent := h (.concurrent schedule) clock'
  have hsequential := h .sequential clock
  exact ⟨hconcurrent.tells.sameButTimes hsequential.tells, hconcurrent.tellsPlan,
    hsequential.tellsPlan⟩

/-- Side by side and in sequence the same is told under every schedule: of every plan in a steady
world, and of an audit also where the hypervisor changes with every request. -/
theorem runConcurrent_refines_runSequential (schedule : Schedule) (clock' clock : Clock) (s : σ) :
    (∀ (env : Environment σ) (plan : List Section), env.IsSteady →
      schedule.Refines env plan s clock' clock) ∧
    ∀ (config : Config) (cluster : Cluster) (hypervisor : Hypervisor σ),
      schedule.Refines ⟨cluster, hypervisor⟩ config.sections s clock' clock := by
  constructor
  · intro env plan hsteady
    exact Schedule.refines_of_isolated
      (fun mode clock => hsteady.run_isolated mode clock plan s) clock' clock
  · intro config cluster hypervisor
    exact Schedule.refines_of_isolated
      (fun mode clock => config.run_isolated cluster hypervisor mode clock s) clock' clock

/-- A world that counts the questions and answers each of them with the same fault. -/
def Environment.counting : Environment Nat :=
  { cluster := fun _ count => (.error (.unavailable "down"), count + 1)
    hypervisor := fun _ count => (.error (.query (.http .unbuilt)), count + 1) }

/-- Two sections that take turns in a world that counts their questions. -/
theorem runConcurrent_refines_runSequential_counting :
    Environment.counting.IsSteady ∧
    (runConcurrent .counting [1, 0, 1, 0] default
      [⟨"first", [.connectivity, .nodesReady]⟩, ⟨"second", [.errorStates, .managed]⟩] 7
      ).exchanges.map Prod.fst = [1, 0, 1, 0] ∧
    Schedule.Refines [1, 0, 1, 0] .counting
      [⟨"first", [.connectivity, .nodesReady]⟩, ⟨"second", [.errorStates, .managed]⟩] 7
      default default := by
  have hsteady : Environment.counting.IsSteady := by
    intro q s t
    cases q <;> rfl
  exact ⟨hsteady, rfl,
    (runConcurrent_refines_runSequential [1, 0, 1, 0] default default 7).1 _ _ hsteady⟩

end ClusterAudit
