-- SUMMARY: Computations that ask a cluster and a hypervisor, and the checks that are made of them.
import ClusterAudit.Query
import ClusterAudit.Outcome

/-!
# Probes

A probe is a computation that asks questions one after the other and may choose
each question by the answers so far. It is kept as a tree of questions, so that
one probe can be run in different ways: at once, or in steps between which other
probes run.

A run gives the value of the probe together with the exchanges it made, in
their order. The world that answers has a state, which the run hands on.
-/

namespace ClusterAudit

/-! ## Questions -/

inductive Question
  | cluster (q : ClusterQuery)
  | hypervisor (q : HypervisorQuery)
deriving DecidableEq, Repr

@[reducible] def Question.Reply : Question → Type
  | .cluster q => q.Reply
  | .hypervisor q => q.Reply

/-- A question and what came back. -/
structure Exchange where
  question : Question
  reply : question.Reply

namespace Exchange

/-- An exchange with the cluster. -/
@[match_pattern] abbrev cluster (q : ClusterQuery) (reply : q.Reply) : Exchange :=
  ⟨.cluster q, reply⟩

@[match_pattern] abbrev hypervisor (q : HypervisorQuery) (reply : q.Reply) : Exchange :=
  ⟨.hypervisor q, reply⟩

def isFailed : Exchange → Bool
  | .cluster _ reply => !reply.isOk
  | .hypervisor _ reply => !reply.isOk

end Exchange

/-! ## Probes -/

/-- A computation that asks questions. -/
inductive Probe (α : Type) : Type
  | done (value : α)
  | ask (q : Question) (next : q.Reply → Probe α)
  /-- Lets some milliseconds pass. -/
  | wait (milliseconds : Nat) (next : Probe α)

namespace Probe

/-- Goes on with the value of a probe. -/
def bind {α β : Type} (probe : Probe α) (next : α → Probe β) : Probe β :=
  match probe with
  | .done value => next value
  | .ask q k => .ask q fun reply => (k reply).bind next
  | .wait milliseconds k => .wait milliseconds (k.bind next)

instance : Monad Probe where
  pure := .done
  bind := bind

/-- Asks the cluster one question. -/
def cluster (q : ClusterQuery) : Probe q.Reply := .ask (.cluster q) .done

/-- Asks the hypervisor one question. -/
def hypervisor (q : HypervisorQuery) : Probe q.Reply := .ask (.hypervisor q) .done

end Probe

/-! ## Running -/

/-- The two sides that probes ask, in a world that may change with every question. -/
structure Environment (σ : Type) where
  cluster : ControlPlane σ
  hypervisor : Hypervisor σ

/-- What comes back from a question to either side, and the state of the world after it. -/
def Environment.answer {σ : Type} (env : Environment σ) : (q : Question) → StateM σ q.Reply
  | .cluster q => env.cluster q
  | .hypervisor q => env.hypervisor q

/-- What a run of a probe leaves: its value, the exchanges, and the state of the world. -/
structure Ran (σ α : Type) where
  value : α
  exchanges : List Exchange
  state : σ

/-- Puts an exchange in front of those of a run. -/
def Ran.after {σ α : Type} (exchange : Exchange) (ran : Ran σ α) : Ran σ α :=
  { ran with exchanges := exchange :: ran.exchanges }

/-- Runs a probe from a state of the world. -/
def Probe.run {σ α : Type} (env : Environment σ) (probe : Probe α) (state : σ) : Ran σ α :=
  match probe with
  | .done value => ⟨value, [], state⟩
  | .ask q next =>
    let (reply, state) := env.answer q state
    ((next reply).run env state).after ⟨q, reply⟩
  | .wait _ next => next.run env state

/-! ## Checks -/

/-- A named probe that ends in outcomes. It never fails: whatever goes wrong becomes an
outcome. -/
structure Check where
  name : String
  probe : Probe (List Outcome)

namespace Check

/-- So many lines of detail are attached where a list may be long. -/
def detailLimit : Nat := 5

/-- A check that asks the cluster one question and judges the answer. -/
def single (name : String) (q : ClusterQuery) (judge : q.Reply → Outcome) : Check :=
  ⟨name, do return [judge (← Probe.cluster q)]⟩

end Check

end ClusterAudit
