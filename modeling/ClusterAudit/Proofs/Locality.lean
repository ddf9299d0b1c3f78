-- SUMMARY: A check depends on the world only by the answers to the questions that it asked.
import ClusterAudit.Proofs.Isolation

/-!
# Locality

A probe chooses its next question by the answers so far, so the questions of a run are not known
beforehand, and two worlds cannot be compared on a fixed list of them. They are compared along the
run in one of them: if the other world gives the same answer to each question that came up, the
same questions come up there.

The main statement lifts this from probes to checks and to the sections of a run. Where no answer
depends on what was asked before, a section whose questions kept their answers keeps its outcomes,
whatever became of the others.
-/

namespace ClusterAudit

variable {σ τ α : Type}

/-! ## Agreement -/

/-- Two worlds give a question the same answer, whatever was asked before. -/
def Environment.AgreesOn (env : Environment σ) (env' : Environment τ) (q : Question) : Prop :=
  ∀ s s', (env.answer q s).1 = (env'.answer q s').1

/-- A run depends on the world only by the answers to its own questions. -/
theorem Probe.run_local {env : Environment σ} {env' : Environment τ} {p : Probe α} {s : σ}
    (h : ∀ e ∈ (p.run env s).exchanges, env.AgreesOn env' e.question) (s' : τ) :
    (p.run env' s').exchanges = (p.run env s).exchanges ∧
      (p.run env' s').value = (p.run env s).value := by
  induction p generalizing s s' with
  | done value => exact ⟨rfl, rfl⟩
  | ask q next ih =>
    -- The first answer is the same, so both worlds go on with the same probe.
    have hreply : (env.answer q s).1 = (env'.answer q s').1 := h _ List.mem_cons_self s s'
    obtain ⟨hexchanges, hvalue⟩ := ih (env.answer q s).1
      (fun e he => h e (List.mem_cons_of_mem _ he)) (env'.answer q s').2
    simp only [run_ask, Ran.after, ← hreply]
    exact ⟨congrArg _ hexchanges, hvalue⟩
  | wait milliseconds next ih => exact ih h s'

/-! ## Runs -/

/-- What is reported of the sections is what each of them gives alone. -/
theorem Run.Isolated.report_sections {run : Run σ} {env : Environment σ}
    {alike : Nat → σ → σ → Prop} {clock : Clock} {plan : List Section} {s : σ}
    (h : run.Isolated env alike clock plan s) :
    run.report.sections = plan.map fun sec => (sec.alone env s).report := by
  rw [h.tells.report_eq, Report.ofRuns, List.map_map]
  rfl

/-- A section whose questions kept their answers goes on as before. -/
theorem Environment.IsSteady.section_local {env : Environment σ} {env' : Environment τ}
    (h : env.IsSteady) (h' : env'.IsSteady) {plan : List Section} {place : Nat} {sec : Section}
    (hsec : plan[place]? = some sec) (mode mode' : Mode) (clock clock' : Clock) (s : σ) (s' : τ)
    (hagree : ∀ e ∈ exchangesAt place (mode.run env clock plan s).exchanges,
      env.AgreesOn env' e.question) :
    exchangesAt place (mode'.run env' clock' plan s').exchanges =
      exchangesAt place (mode.run env clock plan s).exchanges ∧
    (mode'.run env' clock' plan s').report.sections[place]? =
      (mode.run env clock plan s).report.sections[place]? := by
  have hrun := h.run_isolated mode clock plan s
  have hrun' := h'.run_isolated mode' clock' plan s'
  rw [hrun.exchanges_eq place sec hsec] at hagree ⊢
  obtain ⟨hexchanges, hvalue⟩ := Probe.run_local hagree s'
  rw [hrun'.exchanges_eq place sec hsec, hrun.report_sections, hrun'.report_sections]
  refine ⟨hexchanges, ?_⟩
  simp only [List.getElem?_map, hsec, Option.map_some, Section.alone, hvalue]

/-! ## Faults -/

/-- A check that asked nothing that is answered otherwise in another world asks and gives the same
there. So of every plan, that of an audit included, whatever answers change in a world and however
it is run, the sections that asked for none of them make the same exchanges and report the same. -/
theorem faults_stay_inside (env : Environment σ) (env' : Environment τ) (s : σ) (s' : τ) :
    (∀ c : Check, (∀ e ∈ (c.probe.run env s).exchanges, env.AgreesOn env' e.question) →
      (c.probe.run env' s').exchanges = (c.probe.run env s).exchanges ∧
        (c.probe.run env' s').value = (c.probe.run env s).value) ∧
    (env.IsSteady → env'.IsSteady → ∀ changed : Question → Prop,
      (∀ q, ¬ changed q → env.AgreesOn env' q) →
      ∀ (plan : List Section) (mode mode' : Mode) (clock clock' : Clock) (place : Nat)
        (sec : Section), plan[place]? = some sec →
      let run := mode.run env clock plan s
      let run' := mode'.run env' clock' plan s'
      (∀ e ∈ exchangesAt place run.exchanges, ¬ changed e.question) →
        exchangesAt place run'.exchanges = exchangesAt place run.exchanges ∧
          run'.report.sections[place]? = run.report.sections[place]?) := by
  refine ⟨fun c hagree => Probe.run_local hagree s', ?_⟩
  intro hsteady hsteady' changed hothers plan mode mode' clock clock' place sec hsec run run' hasked
  exact hsteady.section_local hsteady' hsec mode mode' clock clock' s s'
    fun e he => hothers e.question (hasked e he)

/-! ## Worlds with one other answer -/

namespace Environment

/-- The world in which one question to the cluster has got this answer. -/
def answering (env : Environment σ) (q : ClusterQuery) (reply : q.Reply) : Environment σ :=
  { env with
    cluster := fun asked s => if h : asked = q then (h ▸ reply, s) else env.cluster asked s }

theorem IsSteady.answering {env : Environment σ} (h : env.IsSteady) (q : ClusterQuery)
    (reply : q.Reply) : (env.answering q reply).IsSteady := by
  intro asked s t
  cases asked with
  | hypervisor asked => exact h (.hypervisor asked) s t
  | cluster asked =>
    by_cases hasked : asked = q
    · subst hasked
      simp [answer, Environment.answering]
    · simpa [answer, Environment.answering, hasked] using h (.cluster asked) s t

/-- The other questions keep their answers. -/
theorem IsSteady.agreesOn_answering {env : Environment σ} (h : env.IsSteady) {q : ClusterQuery}
    (reply : q.Reply) {asked : Question} (hne : asked ≠ .cluster q) :
    env.AgreesOn (env.answering q reply) asked := by
  intro s s'
  cases asked with
  | hypervisor asked => exact h (.hypervisor asked) s s'
  | cluster asked =>
    have hasked : asked ≠ q := fun heq => hne (congrArg Question.cluster heq)
    simpa [answer, Environment.answering, hasked] using h (.cluster asked) s s'

end Environment

/-- The nodes time out where they were refused before. This changes what the first section reports,
but not what the controllers' check finds out, which asks for its pods only by what it was answered
before. -/
theorem faults_stay_inside_nodes :
    let env := Environment.counting.answering (.namespaceNamed "capi") (.ok (some {}))
    let env' := env.answering .nodes (.error (.timeout 30))
    let config : Config := { controllerNs := "capi" }
    let run := (Mode.concurrent [1, 0, 1]).run env default config.sections 0
    let run' := Mode.sequential.run env' default config.sections 7
    env.IsSteady ∧ env'.IsSteady ∧
    (∀ q, q ≠ .cluster .nodes → env.AgreesOn env' q) ∧
    ((Check.controllers "capi").probe.run env' 7).exchanges.map Exchange.question =
      [.cluster (.namespaceNamed "capi"), .cluster (.pods (some "capi") none)] ∧
    ((Check.controllers "capi").probe.run env' 7).value =
      ((Check.controllers "capi").probe.run env 0).value ∧
    run'.report.sections[1]? = run.report.sections[1]? ∧
    run'.report.sections[0]? ≠ run.report.sections[0]? := by
  intro env env' config run run'
  have hcounting : Environment.counting.IsSteady := by
    intro q s t
    cases q <;> rfl
  have hsteady : env.IsSteady := hcounting.answering _ _
  have hsteady' : env'.IsSteady := hsteady.answering _ _
  have hothers (q : Question) (hq : q ≠ .cluster .nodes) : env.AgreesOn env' q :=
    hsteady.agreesOn_answering _ hq
  obtain ⟨hcheck, hsections⟩ := faults_stay_inside env env' 0 7
  obtain ⟨hexchanges, hvalue⟩ := hcheck (.controllers "capi") fun e he => by
    have hasked : e.question ∈ ((Check.controllers "capi").probe.run env 0).exchanges.map
      Exchange.question := List.mem_map_of_mem he
    refine hothers _ fun heq => ?_
    rw [heq] at hasked
    revert hasked
    decide
  have hreported := (hsections hsteady hsteady' (· = .cluster .nodes) hothers config.sections
    (.concurrent [1, 0, 1]) .sequential default default 1 _ rfl fun e he heq => by
      have hasked : e.question ∈ (exchangesAt 1 run.exchanges).map Exchange.question :=
        List.mem_map_of_mem he
      rw [heq] at hasked
      revert hasked
      decide).2
  refine ⟨hsteady, hsteady', hothers, ?_, hvalue, hreported, by decide⟩
  rw [hexchanges]
  rfl

end ClusterAudit
