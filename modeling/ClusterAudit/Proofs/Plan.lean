-- SUMMARY: What the sections of an audit ask: only the login needs a secret or the hypervisor.
import ClusterAudit.Proofs.Probe
import ClusterAudit.Run

/-!
# Questions of a plan

All sections of an audit but one ask plain questions, which a cluster answers
without its secrets. The login is the exception: it asks for one secret, and it
is alone in asking the hypervisor.
-/

namespace ClusterAudit

variable {kind : Question → Prop}

/-- A question to the cluster for anything but a secret. -/
def Question.IsPlain : Question → Prop
  | .cluster (.secret _ _) => False
  | .cluster _ => True
  | .hypervisor _ => False

/-! ## Checks -/

namespace Check

theorem asksOnly_named {c : Check} (h : c.probe.AsksOnly kind) : c.named.AsksOnly kind :=
  h.bind fun _ => trivial

theorem asksOnly_single (name : String) {q : ClusterQuery} (judge : q.Reply → Outcome)
    (hq : kind (.cluster q)) : (single name q judge).probe.AsksOnly kind :=
  ⟨hq, fun _ => trivial⟩

/-- The controllers' check asks for a namespace, and for its pods if it is there. -/
theorem asksOnly_controllers {ns : String} (hns : kind (.cluster (.namespaceNamed ns)))
    (hpods : kind (.cluster (.pods (some ns) none))) : (controllers ns).probe.AsksOnly kind := by
  refine ⟨hns, fun reply => ?_⟩
  match reply with
  | .error _ => trivial
  | .ok none => trivial
  | .ok (some _) => exact ⟨hpods, fun pods => by cases pods <;> trivial⟩

/-- The provider's check asks for a namespace, and for its pods if it is there. -/
theorem asksOnly_provider {ns : String} (hns : kind (.cluster (.namespaceNamed ns)))
    (hpods : kind (.cluster (.pods (some ns) none))) : (provider ns).probe.AsksOnly kind := by
  refine ⟨hns, fun reply => ?_⟩
  match reply with
  | .error _ => trivial
  | .ok none => trivial
  | .ok (some _) => exact ⟨hpods, fun pods => by cases pods <;> trivial⟩

/-- The login asks for one secret, and then only the hypervisor. -/
theorem asksOnly_hypervisor {place : SecretPlace}
    (hsecret : kind (.cluster (.secret place.ns place.name)))
    (hlogin : ∀ q, kind (.hypervisor q)) : (hypervisor place).probe.AsksOnly kind := by
  refine ⟨hsecret, fun reply => ?_⟩
  simp only [Probe.bind_def, Probe.done_bind]
  cases credentialsOf place reply with
  | error failure => trivial
  | ok credentials =>
    refine Probe.AsksOnly.bind ⟨hlogin _, fun ticket => ?_⟩ fun _ => trivial
    cases ticket with
    | error failure => trivial
    | ok ticket => exact ⟨hlogin _, fun version => by cases version <;> trivial⟩

end Check

/-! ## Sections -/

theorem Section.asksOnly {s : Section} (h : ∀ c ∈ s.checks, c.probe.AsksOnly kind) :
    s.probe.AsksOnly kind :=
  Probe.AsksOnly.mapM fun c hc => Check.asksOnly_named (h c hc)

namespace Config

/-- The place of the login among the sections. -/
def loginPlace : Nat := 7

/-- Where the credentials of the login are kept. -/
def secretPlace (c : Config) : Check.SecretPlace := ⟨c.providerNs, c.credentialsSecret⟩

def loginSection (c : Config) : Section :=
  ⟨"8. Proxmox API Connectivity", [.hypervisor c.secretPlace]⟩

theorem sections_login (c : Config) : c.sections[loginPlace]? = some c.loginSection := rfl

/-- Only the login asks anything but plain questions. -/
theorem asksOnly_plain {c : Config} {place : Nat} {s : Section}
    (hs : c.sections[place]? = some s) (hplace : place ≠ loginPlace) :
    s.probe.AsksOnly Question.IsPlain := by
  refine Section.asksOnly ?_
  match place, hs, hplace with
  | 0, rfl, _ | 5, rfl, _ =>
    simp only [List.forall_mem_cons]
    exact ⟨Check.asksOnly_single _ _ trivial, Check.asksOnly_single _ _ trivial,
      Check.asksOnly_single _ _ trivial, nofun⟩
  | 6, rfl, _ | 8, rfl, _ =>
    simp only [List.forall_mem_cons]
    exact ⟨Check.asksOnly_single _ _ trivial, Check.asksOnly_single _ _ trivial, nofun⟩
  | 3, rfl, _ | 4, rfl, _ | 9, rfl, _ =>
    simp only [List.forall_mem_singleton]
    exact Check.asksOnly_single _ _ trivial
  | 1, rfl, _ =>
    simp only [List.forall_mem_singleton]
    exact Check.asksOnly_controllers trivial trivial
  | 2, rfl, _ =>
    simp only [List.forall_mem_singleton]
    exact Check.asksOnly_provider trivial trivial
  | 7, _, hplace => exact absurd rfl hplace

end Config

end ClusterAudit
