-- SUMMARY: The questions of an audit, one by one, in sequence and with its sections side by side.
import ClusterAudit.Proofs.Findings

/-!
# The questions of an audit

What an audit asks follows from its configuration and its findings: each section has a list of
questions of its own. In sequence these lists are asked one after the other. Side by side they are
interleaved in some way that the schedule picks, so that nothing is asked that is not in them, and
nothing is left out or asked again.

Where the cluster does not change, the findings are answers of the cluster and of the hypervisor
alone. Then all ways to run an audit interleave the same lists.
-/

namespace ClusterAudit

/-! ## Interleaving -/

section

variable {α β : Type} {lists : List (List α)} {merged : List α}

/-- The second list takes all of the first lists' items, always the next item of one of them. -/
inductive Interleaves : List (List α) → List α → Prop
  | done {lists : List (List α)} : (∀ list ∈ lists, list = []) → Interleaves lists []
  | pick {lists : List (List α)} {merged : List α} (place : Nat) {a : α} {rest : List α} :
      lists[place]? = some (a :: rest) → Interleaves (lists.set place rest) merged →
      Interleaves lists (a :: merged)

namespace Interleaves

theorem map (f : α → β) (h : Interleaves lists merged) :
    Interleaves (lists.map (List.map f)) (merged.map f) := by
  induction h with
  | done hempty =>
    refine .done fun list hlist => ?_
    obtain ⟨source, hsource, rfl⟩ := List.mem_map.mp hlist
    rw [hempty source hsource, List.map_nil]
  | pick place hplace _ ih =>
    rw [List.map_set] at ih
    exact .pick place (by simp [hplace]) ih

/-- Nothing is added, dropped or repeated. -/
theorem perm (h : Interleaves lists merged) : merged.Perm lists.flatten := by
  induction h with
  | done hempty => rw [List.flatten_eq_nil_iff.mpr hempty]
  | @pick lists merged place a rest hplace _ ih =>
    obtain ⟨hlt, hget⟩ := List.getElem?_eq_some_iff.mp hplace
    obtain ⟨before, after, hlists, -, hset⟩ : ∃ before after,
        lists = before ++ lists[place] :: after ∧ before.length = place ∧
          lists.set place rest = before ++ rest :: after := List.exists_of_set hlt
    rw [hset] at ih
    rw [hlists, hget]
    simp only [List.flatten_append, List.flatten_cons, List.cons_append] at ih ⊢
    exact (ih.cons a).trans List.perm_middle.symm

end Interleaves

end

/-! ## Exchanges by place -/

variable {σ α : Type}

theorem exchangesAt_cons (place : Nat) (e : Nat × Exchange) (es : List (Nat × Exchange)) :
    exchangesAt place (e :: es) =
      if e.1 = place then e.2 :: exchangesAt place es else exchangesAt place es := by
  by_cases h : e.1 = place <;> simp [exchangesAt, h]

/-- The exchanges of the first places, place by place. -/
def exchangesByPlace (count : Nat) (es : List (Nat × Exchange)) : List (List Exchange) :=
  (List.range count).map (exchangesAt · es)

theorem getElem?_exchangesByPlace {count place : Nat} (h : place < count)
    (es : List (Nat × Exchange)) :
    (exchangesByPlace count es)[place]? = some (exchangesAt place es) := by
  simp [exchangesByPlace, h]

/-- In what order the places ever made their exchanges, these are interleaved. -/
theorem interleaves_exchangesByPlace {count : Nat} {es : List (Nat × Exchange)}
    (h : ∀ e ∈ es, e.1 < count) : Interleaves (exchangesByPlace count es) (es.map Prod.snd) := by
  induction es with
  | nil => exact .done (by simp [exchangesByPlace])
  | cons e es ih =>
    have hlt : e.1 < count := h e List.mem_cons_self
    have hplace : (exchangesByPlace count (e :: es))[e.1]? = some (e.2 :: exchangesAt e.1 es) := by
      rw [getElem?_exchangesByPlace hlt, exchangesAt_cons, if_pos rfl]
    have hset : (exchangesByPlace count (e :: es)).set e.1 (exchangesAt e.1 es) =
        exchangesByPlace count es := by
      refine List.ext_getElem (by simp [exchangesByPlace]) fun place _ _ => ?_
      simp only [exchangesByPlace, List.getElem_set, List.getElem_map, List.getElem_range]
      split
      · rename_i hsame
        rw [hsame]
      · rename_i hother
        rw [exchangesAt_cons, if_neg hother]
    refine .pick e.1 hplace ?_
    rw [hset]
    exact ih fun e' he' => h e' (List.mem_cons_of_mem e he')

theorem le_of_mem_runInOrder (env : Environment σ) (number : Nat) (ps : List (Probe α)) (s : σ) :
    ∀ e ∈ (runInOrder env number ps s).2.1, number ≤ e.1 := by
  induction ps generalizing number s with
  | nil => simp [runInOrder]
  | cons p ps ih =>
    intro e he
    rcases List.mem_append.mp he with he | he
    · obtain ⟨_, _, rfl⟩ := List.mem_map.mp he
      exact Nat.le_refl number
    · exact Nat.le_of_succ_le (ih (number + 1) _ e he)

theorem exchangesAt_runInOrder_of_lt (env : Environment σ) {place number : Nat}
    (h : place < number) (ps : List (Probe α)) (s : σ) :
    exchangesAt place (runInOrder env number ps s).2.1 = [] := by
  simp only [exchangesAt, List.map_eq_nil_iff, List.filter_eq_nil_iff, beq_iff_eq]
  intro e he
  have hle := le_of_mem_runInOrder env number ps s e he
  omega

/-- Probes that are run in order make their exchanges place by place. -/
theorem exchanges_runInOrder (env : Environment σ) (number : Nat) (ps : List (Probe α)) (s : σ) :
    (runInOrder env number ps s).2.1.map Prod.snd =
      ((List.range' number ps.length).map
        (exchangesAt · (runInOrder env number ps s).2.1)).flatten := by
  induction ps generalizing number s with
  | nil => rfl
  | cons p ps ih =>
    let ran := p.run env s
    let later := (runInOrder env (number + 1) ps ran.state).2.1
    have hes : (runInOrder env number (p :: ps) s).2.1 = ran.exchanges.map (number, ·) ++ later :=
      rfl
    have hfirst : exchangesAt number (ran.exchanges.map (number, ·) ++ later) = ran.exchanges := by
      simp [later, exchangesAt_runInOrder_of_lt env (Nat.lt_succ_self number)]
    have hothers : ∀ place ∈ List.range' (number + 1) ps.length,
        exchangesAt place (ran.exchanges.map (number, ·) ++ later) = exchangesAt place later := by
      intro place hplace
      have hne : number ≠ place := by
        have hle := (List.mem_range'_1.mp hplace).1
        omega
      rw [exchangesAt_append, exchangesAt_other hne, List.nil_append]
    rw [hes, List.length_cons, List.range'_succ, List.map_cons, List.flatten_cons, hfirst,
      List.map_congr_left hothers, ← ih (number + 1) ran.state]
    simp [later, Function.comp_def]

/-! ## Runs -/

/-- All questions of a run, in the order in which they were asked. -/
def Run.questions (run : Run σ) : List Question := run.exchanges.map fun e => e.2.question

/-- The sections of a run asked these questions, each its own in their order. -/
structure Run.Asks (run : Run σ) (questions : List (List Question)) : Prop where
  places_eq : (exchangesByPlace questions.length run.exchanges).map (List.map Exchange.question) =
    questions
  interleaves : Interleaves questions run.questions
  /-- No question is added, dropped or repeated. -/
  perm : run.questions.Perm questions.flatten

/-- An audit asks what follows from its findings. -/
theorem Run.Follows.asks {run : Run σ} {clock : Clock} {c : Config}
    {results : List (List CheckRun)} (h : run.Follows clock c.sections results) :
    run.Asks (c.questions (.of run.exchanges)) := by
  have hlength : (c.questions (.of run.exchanges)).length = c.sections.length := rfl
  have hplaces : (exchangesByPlace c.sections.length run.exchanges).map
      (List.map Exchange.question) = c.questions (.of run.exchanges) := by
    refine c.ext_sections (by simp [exchangesByPlace]) hlength fun place s hs => ?_
    obtain ⟨os, questions, informs, -, hasked, -, hcourse⟩ := h.course hs
    have hlt : place < c.sections.length := (List.getElem?_eq_some_iff.mp hs).1
    rw [List.getElem?_map, getElem?_exchangesByPlace hlt, hasked, Option.map_some,
      hcourse.questions_eq]
  have hinterleaves : Interleaves (c.questions (.of run.exchanges)) run.questions := by
    have hturns := (interleaves_exchangesByPlace h.places_lt).map Exchange.question
    rwa [hplaces, List.map_map] at hturns
  rw [← hlength] at hplaces
  exact ⟨hplaces, hinterleaves, hinterleaves.perm⟩

/-- In sequence an audit asks the questions of one section after those of the other. -/
theorem questions_runSequential (c : Config) (env : Environment σ) (clock : Clock) (s : σ) :
    let run := runSequential env clock c.sections s
    run.questions = (c.questions (.of run.exchanges)).flatten := by
  intro run
  obtain ⟨results, hfollows⟩ := Mode.sequential.exists_follows env clock c.sections s
  have hexchanges : run.exchanges = (runInOrder env 0 (c.sections.map Section.probe) s).2.1 := by
    simp [run, runSequential_eq_runConcurrent, runConcurrent, Progress.finish]
  have hinOrder : run.exchanges.map Prod.snd =
      (exchangesByPlace c.sections.length run.exchanges).flatten := by
    rw [hexchanges, exchanges_runInOrder, List.length_map, exchangesByPlace, List.range_eq_range']
  calc run.questions
      = (run.exchanges.map Prod.snd).map Exchange.question := by rw [List.map_map]; rfl
    _ = ((exchangesByPlace c.sections.length run.exchanges).map
          (List.map Exchange.question)).flatten := by rw [hinOrder, List.map_flatten]
    _ = (c.questions (.of run.exchanges)).flatten := congrArg _ hfollows.asks.places_eq

/-! ## The questions of an audit -/

/-- What an audit asks follows from its configuration and its findings. In sequence it asks these
questions one after the other, and under every schedule its sections interleave theirs. Where the
cluster does not change, both ways ask the same questions. -/
theorem audit_asks_exactly (config : Config) (schedule : Schedule) (clock : Clock) (s : σ) :
    (∀ env : Environment σ,
      let alone := runSequential env clock config.sections s
      let beside := runConcurrent env schedule clock config.sections s
      alone.questions = (config.questions (.of alone.exchanges)).flatten ∧
        beside.Asks (config.questions (.of beside.exchanges))) ∧
    ∀ (cluster : Cluster) (hypervisor : Hypervisor σ),
      let questions := config.questions (config.findings cluster hypervisor s)
      (runSequential ⟨cluster, hypervisor⟩ clock config.sections s).questions = questions.flatten ∧
        (runConcurrent ⟨cluster, hypervisor⟩ schedule clock config.sections s).Asks questions := by
  have hsequential (env : Environment σ) := questions_runSequential config env clock s
  have hconcurrent (env : Environment σ) :
      let beside := runConcurrent env schedule clock config.sections s
      beside.Asks (config.questions (.of beside.exchanges)) := by
    obtain ⟨results, hfollows⟩ :=
      (Mode.concurrent schedule).exists_follows env clock config.sections s
    exact hfollows.asks
  refine ⟨fun env => ⟨hsequential env, hconcurrent env⟩, fun cluster hypervisor => ?_⟩
  have hfindings := config.findings_run cluster hypervisor s
  constructor
  · rw [← hfindings .sequential clock]
    exact hsequential ⟨cluster, hypervisor⟩
  · rw [← hfindings (.concurrent schedule) clock]
    exact hconcurrent ⟨cluster, hypervisor⟩

end ClusterAudit
