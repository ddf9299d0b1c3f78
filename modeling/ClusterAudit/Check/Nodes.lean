-- SUMMARY: The checks of the control plane and of the nodes.
import ClusterAudit.Check.Probe
import ClusterAudit.Text.Lowercase

/-!
# Control plane and nodes

Whether the control plane answers, whether the nodes are ready, and whether some
of them run on the hypervisor. A node is known to run there by its kernel or by
its operating system, whatever the case of the letters.
-/

namespace ClusterAudit

/-! ## Nodes -/

namespace Node

/-- The versions that a node reports. -/
def info? (n : Node) : Option NodeInfo := n.status.bind NodeStatus.info

/-- The conditions that a node reports, in their order. -/
def conditions (n : Node) : List NodeCondition := (n.status.map NodeStatus.conditions).getD []

/-- Whether the first condition of the kind `Ready` is true. -/
def isReady (n : Node) : Bool :=
  match n.conditions.find? (·.kind == "Ready") with
  | some condition => condition.status == "True"
  | none => false

/-- The line of detail about a node. -/
def row (n : Node) : String :=
  let start := n.metadata.shownName ++ "  " ++ (if n.isReady then "Ready" else "NotReady")
  match n.info? with
  | some info => start ++ "  " ++ info.kubelet ++ "  " ++ info.osImage ++ "  " ++ info.kernel
  | none => start

end Node

namespace Check

/-! ## The control plane -/

/-- Whether the control plane answers at all. -/
def connectivity : Check :=
  single "Kubernetes API connectivity" .version fun
    | .ok version =>
      (Outcome.pass "Kubernetes API is accessible").withDetails
        ["Server version: " ++ version.gitVersion, "Platform: " ++ version.platform]
    | .error fault => .fail ("Cannot connect to Kubernetes API: " ++ fault.message)

/-! ## Readiness -/

/-- Passes if all nodes are ready, warns if only some are, and fails if none is or if there are
no nodes. -/
def judgeNodes (nodes : List Node) : Outcome :=
  let total := nodes.length
  let ready := nodes.countP Node.isReady
  let outcome : Outcome :=
    if total = 0 then .fail "No nodes found in cluster"
    else if ready = total then .pass s!"All {total} nodes are Ready"
    else if ready = 0 then .fail s!"No nodes Ready ({ready}/{total})"
    else .warn s!"Only {ready}/{total} nodes Ready"
  outcome.withDetails ((nodes.take detailLimit).map Node.row)

def nodesReady : Check :=
  single "Node status" .nodes fun
    | .ok nodes => judgeNodes nodes
    | .error fault => .fail ("Cannot retrieve node status: " ++ fault.message)

/-! ## Nodes on the hypervisor -/

/-- By which texts a node on the hypervisor is known. -/
structure WorkerMarkers where
  kernel : String
  osImage : String
deriving DecidableEq, Repr, Inhabited

/-- Whether a node runs on the hypervisor. -/
def WorkerMarkers.marks (markers : WorkerMarkers) (info : NodeInfo) : Bool :=
  Text.containsIgnoreCase info.kernel markers.kernel
    || Text.containsIgnoreCase info.osImage markers.osImage

/-- The line of detail about a node on the hypervisor. -/
def workerRow (n : Node) (info : NodeInfo) : String :=
  "Node: " ++ n.metadata.shownName ++ ", OS: " ++ info.osImage ++ ", Kernel: " ++ info.kernel

/-- The lines about the nodes on the hypervisor; every node has to report its versions. -/
def workerRows (markers : WorkerMarkers) : List Node → Except ShapeFault (List String)
  | [] => .ok []
  | n :: rest =>
    match n.info? with
    | none => .error ⟨"node " ++ n.metadata.shownName, "missing status.nodeInfo"⟩
    | some info => do
      let rows ← workerRows markers rest
      return if markers.marks info then workerRow n info :: rows else rows

/-- Passes if some node runs on the hypervisor, and warns if none does. -/
def judgeWorkers (markers : WorkerMarkers) (nodes : List Node) : Except ShapeFault Outcome := do
  let found ← workerRows markers nodes
  if found.isEmpty then return .warn "No Proxmox worker nodes detected"
  return (Outcome.pass s!"Proxmox worker node(s) found: {found.length}").withDetails found

/-- Whether some node runs on the hypervisor. -/
def workers (markers : WorkerMarkers) : Check :=
  single "Proxmox worker node" .nodes fun
    | .ok nodes =>
      match judgeWorkers markers nodes with
      | .ok outcome => outcome
      | .error fault => .fail ("Error parsing node data: " ++ fault.message)
    | .error fault => .fail ("Cannot retrieve nodes: " ++ fault.message)

end Check

end ClusterAudit
