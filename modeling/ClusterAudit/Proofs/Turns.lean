-- SUMMARY: Probes that take turns: a schedule runs each of them along one of its own traces.
import ClusterAudit.Proofs.Probe
import ClusterAudit.Run

/-!
# Taking turns

Whatever is left of a run when its schedule ends could as well have been given
its turns by a longer schedule, and a run in sequence is a run side by side in
which no section asks before its turn. So one lemma about a single turn is
enough for both ways to run a plan.

The main statement is that in every run each section goes along a trace of its
own, whatever the others do.
-/

namespace ClusterAudit

variable {σ α : Type}

/-! ## The exchanges of one place -/

/-- The exchanges made at a place, in their order. -/
def exchangesAt (place : Nat) (es : List (Nat × Exchange)) : List Exchange :=
  (es.filter (·.1 == place)).map (·.2)

@[simp] theorem exchangesAt_nil (place : Nat) : exchangesAt place [] = [] := rfl

@[simp] theorem exchangesAt_append (place : Nat) (es es' : List (Nat × Exchange)) :
    exchangesAt place (es ++ es') = exchangesAt place es ++ exchangesAt place es' := by
  simp [exchangesAt]

@[simp] theorem exchangesAt_same (place : Nat) (es : List Exchange) :
    exchangesAt place (es.map (place, ·)) = es := by
  simp [exchangesAt, List.filter_map, Function.comp_def]

theorem exchangesAt_other {place other : Nat} (hne : other ≠ place) (es : List Exchange) :
    exchangesAt place (es.map (other, ·)) = [] := by
  simp [exchangesAt, List.filter_map, Function.comp_def, hne]

/-! ## One turn -/

@[simp] theorem Probe.step_done (env : Environment σ) (value : α) (s : σ) :
    (Probe.done value).step env s = (.done value, [], s) := rfl

@[simp] theorem Probe.step_ask (env : Environment σ) (q : Question) (next : q.Reply → Probe α)
    (s : σ) :
    (Probe.ask q next).step env s =
      (next (env.answer q s).1, [⟨q, (env.answer q s).1⟩], (env.answer q s).2) := rfl

@[simp] theorem Probe.step_wait (env : Environment σ) (milliseconds : Nat) (next : Probe α)
    (s : σ) : (Probe.wait milliseconds next).step env s = (next, [], s) := rfl

/-- A turn takes a probe one exchange further along its traces. -/
theorem Probe.Trace.of_step {env : Environment σ} {p : Probe α} {s : σ} {es : List Exchange}
    {value : α} (h : (p.step env s).1.Trace es value) :
    p.Trace ((p.step env s).2.1 ++ es) value := by
  cases p with
  | done result => exact h
  | ask q next => exact .ask _ h
  | wait milliseconds next => exact .wait h

/-- A turn and a run of what is left make a run. -/
theorem Probe.run_step (env : Environment σ) (p : Probe α) (s : σ) :
    ((p.step env s).1.run env (p.step env s).2.2).afterAll (p.step env s).2.1 = p.run env s := by
  cases p <;> rfl

namespace Turns

theorem step_at (env : Environment σ) (before : List (Probe α)) (p : Probe α)
    (after : List (Probe α)) (es : List (Nat × Exchange)) (s : σ) :
    step env ⟨before ++ p :: after, es, s⟩ before.length =
      ⟨before ++ (p.step env s).1 :: after, es ++ (p.step env s).2.1.map (before.length, ·),
        (p.step env s).2.2⟩ := by
  simp [step, List.set_append_right]

/-- A turn where no probe is changes nothing. -/
theorem step_of_none {env : Environment σ} {turns : Turns σ α} {place : Nat}
    (h : turns.probes[place]? = none) : turns.step env place = turns := by
  simp [step, h]

theorem step_of_some {env : Environment σ} {turns : Turns σ α} {place : Nat} {p : Probe α}
    (h : turns.probes[place]? = some p) :
    turns.step env place =
      ⟨turns.probes.set place (p.step env turns.state).1,
        turns.exchanges ++ (p.step env turns.state).2.1.map (place, ·),
        (p.step env turns.state).2.2⟩ := by
  simp [step, h]

/-! ## Finishing -/

/-- A probe that is given enough turns runs to its end. -/
theorem exists_turns_to_end (env : Environment σ) (before : List (Probe α)) (p : Probe α)
    (after : List (Probe α)) (es : List (Nat × Exchange)) (s : σ) :
    ∃ count, (List.replicate count before.length).foldl (step env) ⟨before ++ p :: after, es, s⟩ =
      ⟨before ++ .done (p.run env s).value :: after,
        es ++ (p.run env s).exchanges.map (before.length, ·), (p.run env s).state⟩ := by
  induction p generalizing es s with
  | done value => exact ⟨0, by simp⟩
  | ask q next ih =>
    obtain ⟨count, hcount⟩ := ih (env.answer q s).1
      (es ++ [(before.length, ⟨q, (env.answer q s).1⟩)]) (env.answer q s).2
    refine ⟨count + 1, ?_⟩
    rw [List.replicate_succ, List.foldl_cons, step_at]
    simpa [Ran.after] using hcount
  | wait milliseconds next ih =>
    obtain ⟨count, hcount⟩ := ih es s
    refine ⟨count + 1, ?_⟩
    rw [List.replicate_succ, List.foldl_cons, step_at]
    simpa using hcount

/-- Probes that are run in order have been given the turns of some schedule. -/
theorem exists_schedule_to_end (env : Environment σ) (before : List α) (ps : List (Probe α))
    (es : List (Nat × Exchange)) (s : σ) :
    ∃ schedule : Schedule,
      schedule.foldl (step env) ⟨before.map .done ++ ps, es, s⟩ =
        ⟨(before ++ (runInOrder env before.length ps s).1).map .done,
          es ++ (runInOrder env before.length ps s).2.1,
          (runInOrder env before.length ps s).2.2⟩ := by
  induction ps generalizing before es s with
  | nil => exact ⟨[], by simp [runInOrder]⟩
  | cons p ps ih =>
    obtain ⟨count, hcount⟩ := exists_turns_to_end env (before.map .done) p ps es s
    obtain ⟨schedule, hschedule⟩ := ih (before ++ [(p.run env s).value])
      (es ++ (p.run env s).exchanges.map (before.length, ·)) (p.run env s).state
    refine ⟨List.replicate count before.length ++ schedule, ?_⟩
    rw [List.length_map] at hcount
    rw [List.foldl_append, hcount]
    simpa [runInOrder] using hschedule

/-! ## Traces -/

/-- Probes that take turns are what is left of some probes after the exchanges so far. -/
structure Continues (turns : Turns σ α) (probes : List (Probe α)) : Prop where
  length_eq : turns.probes.length = probes.length
  places_lt : ∀ e ∈ turns.exchanges, e.1 < probes.length
  traces : ∀ (place : Nat) (p p' : Probe α), probes[place]? = some p →
    turns.probes[place]? = some p' → ∀ (es : List Exchange) (value : α), p'.Trace es value →
      p.Trace (exchangesAt place turns.exchanges ++ es) value

theorem continues_start (probes : List (Probe α)) (s : σ) :
    (⟨probes, [], s⟩ : Turns σ α).Continues probes where
  length_eq := rfl
  places_lt := by simp
  traces := by
    intro place p p' hp hp' es value h
    cases hp.symm.trans hp'
    exact h

theorem Continues.step {turns : Turns σ α} {probes : List (Probe α)} (h : turns.Continues probes)
    (env : Environment σ) (place : Nat) : (turns.step env place).Continues probes := by
  cases hplace : turns.probes[place]? with
  | none => rwa [step_of_none hplace]
  | some p =>
    have hlt : place < probes.length := by
      rw [← h.length_eq]
      exact (List.getElem?_eq_some_iff.mp hplace).1
    rw [step_of_some hplace]
    refine ⟨by simp [h.length_eq], ?_, ?_⟩
    · intro e he
      rcases List.mem_append.mp he with he | he
      · exact h.places_lt e he
      · obtain ⟨_, _, rfl⟩ := List.mem_map.mp he
        exact hlt
    · intro other p₀ p' hp₀ hp' es value htrace
      by_cases hother : place = other
      · subst hother
        obtain rfl : (p.step env turns.state).1 = p' := by
          simpa [List.getElem?_set, h.length_eq, hlt] using hp'
        simpa using h.traces place p₀ p hp₀ hplace _ value htrace.of_step
      · rw [List.getElem?_set_ne hother] at hp'
        simpa [exchangesAt_other hother] using h.traces other p₀ p' hp₀ hp' es value htrace

theorem Continues.foldl {turns : Turns σ α} {probes : List (Probe α)} (h : turns.Continues probes)
    (env : Environment σ) (schedule : Schedule) :
    (schedule.foldl (Turns.step env) turns).Continues probes := by
  induction schedule generalizing turns with
  | nil => exact h
  | cons place schedule ih => exact ih (h.step env place)

end Turns

end ClusterAudit
