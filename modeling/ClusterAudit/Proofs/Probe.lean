-- SUMMARY: Laws of probes: how they are sequenced and run, the ways they may go, and what they ask.
import ClusterAudit.Check.Probe

/-!
# Laws of probes

A probe is run against an environment. `Probe.Trace` forgets the environment: it
relates a probe to the exchanges and the value to which some answers lead it.
Whatever is shown of all traces of a probe holds in every world and whatever
other probes run beside it.
-/

namespace ClusterAudit

/-- Puts exchanges in front of those of a run. -/
def Ran.afterAll {σ α : Type} (earlier : List Exchange) (ran : Ran σ α) : Ran σ α :=
  { ran with exchanges := earlier ++ ran.exchanges }

namespace Environment

variable {σ : Type}

@[simp] theorem answer_cluster (cluster : Cluster) (hypervisor : Hypervisor σ) (q : ClusterQuery)
    (s : σ) : (Environment.mk cluster hypervisor).answer (.cluster q) s = (cluster q, s) := rfl

@[simp] theorem answer_hypervisor (cluster : ControlPlane σ) (hypervisor : Hypervisor σ)
    (q : HypervisorQuery) (s : σ) :
    (Environment.mk cluster hypervisor).answer (.hypervisor q) s = hypervisor q s := rfl

end Environment

namespace Probe

variable {σ α β γ : Type}

/-! ## Sequencing -/

@[simp] theorem pure_def (value : α) : (pure value : Probe α) = .done value := rfl

@[simp] theorem bind_def (p : Probe α) (k : α → Probe β) : (p >>= k) = p.bind k := rfl

@[simp] theorem done_bind (value : α) (k : α → Probe β) : (done value).bind k = k value := rfl

@[simp] theorem ask_bind (q : Question) (next : q.Reply → Probe α) (k : α → Probe β) :
    (ask q next).bind k = ask q fun reply => (next reply).bind k := rfl

@[simp] theorem wait_bind (milliseconds : Nat) (next : Probe α) (k : α → Probe β) :
    (wait milliseconds next).bind k = wait milliseconds (next.bind k) := rfl

theorem bind_done (p : Probe α) : p.bind done = p := by
  induction p with
  | done value => rfl
  | ask q next ih =>
    simp only [ask_bind, ask.injEq, heq_eq_eq, true_and]
    funext reply
    exact ih reply
  | wait milliseconds next ih => simp [ih]

theorem bind_assoc (p : Probe α) (f : α → Probe β) (g : β → Probe γ) :
    (p.bind f).bind g = p.bind fun value => (f value).bind g := by
  induction p with
  | done value => rfl
  | ask q next ih =>
    simp only [ask_bind, ask.injEq, heq_eq_eq, true_and]
    funext reply
    exact ih reply
  | wait milliseconds next ih => simp [ih]

instance : LawfulMonad Probe :=
  LawfulMonad.mk' Probe (fun p => bind_done p) (fun _ _ => rfl) (fun p f g => bind_assoc p f g)

/-! ## Running -/

@[simp] theorem run_done (env : Environment σ) (value : α) (s : σ) :
    (done value).run env s = ⟨value, [], s⟩ := rfl

@[simp] theorem run_ask (env : Environment σ) (q : Question) (next : q.Reply → Probe α) (s : σ) :
    (ask q next).run env s =
      ((next (env.answer q s).1).run env (env.answer q s).2).after ⟨q, (env.answer q s).1⟩ := rfl

@[simp] theorem run_wait (env : Environment σ) (milliseconds : Nat) (next : Probe α) (s : σ) :
    (wait milliseconds next).run env s = next.run env s := rfl

/-- What follows a probe is run from the state that the probe leaves. -/
theorem run_bind (env : Environment σ) (p : Probe α) (k : α → Probe β) (s : σ) :
    (p.bind k).run env s =
      ((k (p.run env s).value).run env (p.run env s).state).afterAll (p.run env s).exchanges := by
  induction p generalizing s with
  | done value => rfl
  | ask q next ih => simp [ih, Ran.after, Ran.afterAll]
  | wait milliseconds next ih => simp [ih]

/-! ## Traces -/

/-- Some answers lead a probe through these exchanges to this value. -/
inductive Trace : Probe α → List Exchange → α → Prop
  | done (value : α) : Trace (.done value) [] value
  | ask {q : Question} {next : q.Reply → Probe α} {es : List Exchange} {value : α}
      (reply : q.Reply) :
      Trace (next reply) es value → Trace (.ask q next) (⟨q, reply⟩ :: es) value
  | wait {milliseconds : Nat} {next : Probe α} {es : List Exchange} {value : α} :
      Trace next es value → Trace (.wait milliseconds next) es value

@[simp] theorem trace_done_iff {value : α} {es : List Exchange} {result : α} :
    (done value).Trace es result ↔ es = [] ∧ result = value := by
  constructor
  · rintro ⟨⟩
    exact ⟨rfl, rfl⟩
  · rintro ⟨rfl, rfl⟩
    exact .done _

@[simp] theorem trace_ask_iff {q : Question} {next : q.Reply → Probe α} {es : List Exchange}
    {value : α} :
    (ask q next).Trace es value ↔
      ∃ reply rest, es = ⟨q, reply⟩ :: rest ∧ (next reply).Trace rest value := by
  constructor
  · rintro (_ | ⟨reply, h⟩)
    exact ⟨reply, _, rfl, h⟩
  · rintro ⟨reply, rest, rfl, h⟩
    exact .ask reply h

@[simp] theorem trace_wait_iff {milliseconds : Nat} {next : Probe α} {es : List Exchange}
    {value : α} : (wait milliseconds next).Trace es value ↔ next.Trace es value := by
  constructor
  · rintro (_ | _ | h)
    exact h
  · exact .wait

/-- Every run is one of the ways a probe may go. -/
theorem trace_run (env : Environment σ) (p : Probe α) (s : σ) :
    p.Trace (p.run env s).exchanges (p.run env s).value := by
  induction p generalizing s with
  | done value => exact .done value
  | ask q next ih => exact .ask _ (ih _ _)
  | wait milliseconds next ih => exact .wait (ih s)

/-- A trace through two probes comes apart where the second begins. -/
theorem Trace.of_bind {p : Probe α} {k : α → Probe β} {es : List Exchange} {result : β}
    (h : (p.bind k).Trace es result) :
    ∃ es₁ value es₂, es = es₁ ++ es₂ ∧ p.Trace es₁ value ∧ (k value).Trace es₂ result := by
  induction p generalizing es with
  | done value => exact ⟨[], value, es, rfl, .done value, h⟩
  | ask q next ih =>
    obtain ⟨reply, rest, rfl, hrest⟩ := trace_ask_iff.mp h
    obtain ⟨es₁, value, es₂, rfl, h₁, h₂⟩ := ih reply hrest
    exact ⟨⟨q, reply⟩ :: es₁, value, es₂, rfl, .ask reply h₁, h₂⟩
  | wait milliseconds next ih =>
    obtain ⟨es₁, value, es₂, rfl, h₁, h₂⟩ := ih (trace_wait_iff.mp h)
    exact ⟨es₁, value, es₂, rfl, .wait h₁, h₂⟩

/-! ## What is asked -/

/-- Every question of a probe is of a kind, whatever the answers are. -/
def AsksOnly (kind : Question → Prop) : Probe α → Prop
  | .done _ => True
  | .ask q next => kind q ∧ ∀ reply, (next reply).AsksOnly kind
  | .wait _ next => next.AsksOnly kind

theorem AsksOnly.mono {kind kind' : Question → Prop} (hle : ∀ q, kind q → kind' q) {p : Probe α}
    (h : p.AsksOnly kind) : p.AsksOnly kind' := by
  induction p with
  | done value => trivial
  | ask q next ih => exact ⟨hle q h.1, fun reply => ih reply (h.2 reply)⟩
  | wait milliseconds next ih => exact ih h

theorem asksOnly_of_forall {kind : Question → Prop} (h : ∀ q, kind q) (p : Probe α) :
    p.AsksOnly kind := by
  induction p with
  | done value => trivial
  | ask q next ih => exact ⟨h q, ih⟩
  | wait milliseconds next ih => exact ih

theorem AsksOnly.bind {kind : Question → Prop} {p : Probe α} {k : α → Probe β}
    (hp : p.AsksOnly kind) (hk : ∀ value, (k value).AsksOnly kind) : (p.bind k).AsksOnly kind := by
  induction p with
  | done value => exact hk value
  | ask q next ih => exact ⟨hp.1, fun reply => ih reply (hp.2 reply)⟩
  | wait milliseconds next ih => exact ih hp

theorem AsksOnly.mapM {kind : Question → Prop} {f : α → Probe β} {as : List α}
    (h : ∀ a ∈ as, (f a).AsksOnly kind) : (as.mapM f).AsksOnly kind := by
  induction as with
  | nil => trivial
  | cons a as ih =>
    rw [List.mapM_cons]
    refine AsksOnly.bind (h a List.mem_cons_self) fun value => ?_
    exact AsksOnly.bind (ih fun b hb => h b (List.mem_cons_of_mem a hb)) fun _ => trivial

end Probe

/-- A check that asks one question gives its judgement on the answer. -/
theorem Check.value_single {env : Environment σ} {q : ClusterQuery} {reply : q.Reply} {s : σ}
    (h : (env.answer (.cluster q) s).1 = reply) (name : String) (judge : q.Reply → Outcome) :
    ((single name q judge).probe.run env s).value = [judge reply] := by
  rw [← h]
  rfl

end ClusterAudit
