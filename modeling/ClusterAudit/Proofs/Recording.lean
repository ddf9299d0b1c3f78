-- SUMMARY: Networks that keep a record of the requests that are made over them.

/-!
# Recordings

A network gives what becomes of a request and goes on in another state. It can be
made to write down what is sent over it, and some networks do so by themselves:
how many requests a client makes, and which, is read off such a record.
-/

namespace ClusterAudit

variable {ρ τ σ : Type}

/-- A network that writes down the requests, first to last. -/
def recording (network : ρ → StateM σ τ) : ρ → StateM (σ × List ρ) τ := fun request world =>
  let (answer, state) := network request world.1
  (answer, (state, world.2 ++ [request]))

/-- What is told of a network by its state are the requests that were made over it. -/
def Records (network : ρ → StateM σ τ) (sent : σ → List ρ) : Prop :=
  ∀ request s, sent (network request s).2 = sent s ++ [request]

theorem records_recording (network : ρ → StateM σ τ) : Records (recording network) Prod.snd :=
  fun _ _ => rfl

end ClusterAudit
