-- SUMMARY: The Kubernetes objects that the checks look at.
import ClusterAudit.Json.Value
import ClusterAudit.Text.Utf8

/-!
# Objects

The objects of a cluster, reduced to the parts that a check reads. A part that a
cluster may leave out is optional; a text that it must give but does not is
empty.
-/

namespace ClusterAudit

/-- What every object says about itself. -/
structure Metadata where
  name : Option String := none
  /-- The namespace. -/
  ns : Option String := none
  labels : List (String × String) := []
  annotations : List (String × String) := []
deriving DecidableEq, Repr, Inhabited

namespace Metadata

def shownName (m : Metadata) : String := m.name.getD "<unnamed>"

def shownNs (m : Metadata) : String := m.ns.getD "-"

def annotation? (m : Metadata) (key : String) : Option String :=
  (m.annotations.find? (·.1 == key)).map (·.2)

def label? (m : Metadata) (key : String) : Option String :=
  (m.labels.find? (·.1 == key)).map (·.2)

end Metadata

/-! ## Pods -/

/-- A container that has ended. -/
structure Terminated where
  exitCode : Int := 0
  reason : Option String := none
deriving DecidableEq, Repr, Inhabited

/-- A container that waits to be started. -/
structure Waiting where
  reason : Option String := none
deriving DecidableEq, Repr, Inhabited

/-- The state of a container, as far as it is not simply running. -/
structure ContainerState where
  waiting : Option Waiting := none
  terminated : Option Terminated := none
deriving DecidableEq, Repr, Inhabited

/-- What a pod reports about one of its containers. -/
structure ContainerStatus where
  state : Option ContainerState := none
deriving DecidableEq, Repr, Inhabited

/-- What a pod reports about itself. -/
structure PodStatus where
  phase : Option String := none
  reason : Option String := none
  initContainers : List ContainerStatus := []
  containers : List ContainerStatus := []
deriving DecidableEq, Repr, Inhabited

/-- A pod, with the part of its status that the checks look at. -/
structure Pod where
  metadata : Metadata := {}
  status : Option PodStatus := none
deriving DecidableEq, Repr, Inhabited

/-! ## Nodes -/

structure NodeCondition where
  kind : String := ""
  status : String := ""
deriving DecidableEq, Repr, Inhabited

structure NodeInfo where
  kubelet : String := ""
  osImage : String := ""
  kernel : String := ""
deriving DecidableEq, Repr, Inhabited

/-- What a node reports about itself. -/
structure NodeStatus where
  conditions : List NodeCondition := []
  info : Option NodeInfo := none
deriving DecidableEq, Repr, Inhabited

/-- A node, with the part of its status that the checks look at. -/
structure Node where
  metadata : Metadata := {}
  status : Option NodeStatus := none
deriving DecidableEq, Repr, Inhabited

/-! ## Other objects -/

/-- An object of which only the metadata matter. -/
structure Named where
  metadata : Metadata := {}
deriving DecidableEq, Repr, Inhabited

structure StorageClass where
  metadata : Metadata := {}
  provisioner : String := ""
deriving DecidableEq, Repr, Inhabited

/-- A secret with its decoded data. -/
structure Secret where
  metadata : Metadata := {}
  data : List (String × Utf8.Bytes) := []
deriving DecidableEq, Repr, Inhabited

/-- An object of a kind that is defined by the cluster; its status is kept as it is. -/
structure CustomObject where
  metadata : Metadata := {}
  status : Option Json := none
deriving Repr, Inhabited

/-- What the control plane says about its version. -/
structure ServerVersion where
  gitVersion : String := ""
  platform : String := ""
  major : String := ""
  minor : String := ""
deriving DecidableEq, Repr, Inhabited

end ClusterAudit
