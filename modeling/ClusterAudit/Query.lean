-- SUMMARY: The questions that checks put to the cluster and to the hypervisor, and their answers.
import ClusterAudit.Failure
import ClusterAudit.Resource.Object

/-!
# Queries

A query is a question without effects. The type of a query's answer depends on
the query. A cluster answers each query by a function of that query alone; a
control plane and a hypervisor may change between two queries.
-/

namespace ClusterAudit

/-! ## The cluster -/

/-- A kind of objects that is defined by the cluster. -/
structure CustomKind where
  group : String
  version : String
  kind : String
  plural : String
deriving DecidableEq, Repr, Inhabited

def CustomKind.apiVersion (k : CustomKind) : String := k.group ++ "/" ++ k.version

/-- A question to the control plane. -/
inductive ClusterQuery
  | version
  | nodes
  | namespaceNamed (name : String)
  /-- The pods of one namespace or of all, and those that a selector picks. -/
  | pods (ns selector : Option String)
  | definitions
  | customObjects (kind : CustomKind)
  | drivers
  | storageClasses
  | secret (ns name : String)
deriving DecidableEq, Repr

def ClusterQuery.Answer : ClusterQuery → Type
  | .version => ServerVersion
  | .nodes => List Node
  | .namespaceNamed _ => Option Named
  | .pods _ _ => List Pod
  | .definitions => List Named
  | .customObjects _ => List CustomObject
  | .drivers => List Named
  | .storageClasses => List StorageClass
  | .secret _ _ => Option Secret

abbrev ClusterQuery.Reply (q : ClusterQuery) : Type := Except QueryFault q.Answer

/-- A cluster: what comes back from each query. -/
abbrev Cluster : Type := (q : ClusterQuery) → q.Reply

/-- A control plane with a state: what comes back from each query, and the state after it. -/
abbrev ControlPlane (σ : Type) : Type := (q : ClusterQuery) → StateM σ q.Reply

/-- The control plane of a cluster, which no query changes. -/
def Cluster.controlPlane {σ : Type} (cluster : Cluster) : ControlPlane σ := fun q =>
  return cluster q

instance {σ : Type} : Coe Cluster (ControlPlane σ) := ⟨Cluster.controlPlane⟩

/-- A cluster to which there is no connection. -/
def Cluster.unreachable (reason : String) : Cluster := fun _ => .error (.unavailable reason)

/-! ## The hypervisor -/

/-- What a login yields, and every later request must show. -/
structure Ticket where
  ticket : String
  csrfToken : String
deriving DecidableEq, Repr, Inhabited

/-- The ticket in a log, where its contents are not shown. -/
def Ticket.shown (_ : Ticket) : String :=
  r#"Ticket { ticket: "<redacted>", csrf_prevention_token: "<redacted>" }"#

structure HypervisorVersion where
  version : Option String := none
  release : Option String := none
  repoid : Option String := none
deriving DecidableEq, Repr, Inhabited

inductive HypervisorQuery
  | authenticate (endpoint username password : String)
  | version (endpoint : String) (ticket : Ticket)
deriving DecidableEq, Repr

def HypervisorQuery.Answer : HypervisorQuery → Type
  | .authenticate _ _ _ => Ticket
  | .version _ _ => HypervisorVersion

abbrev HypervisorQuery.Reply (q : HypervisorQuery) : Type := Except Failure q.Answer

/-- A hypervisor with a state: what comes back from each query, and the state after it. -/
abbrev Hypervisor (σ : Type) : Type := (q : HypervisorQuery) → StateM σ q.Reply

end ClusterAudit
