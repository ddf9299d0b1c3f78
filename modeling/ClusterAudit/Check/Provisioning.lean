-- SUMMARY: The checks of the controllers that provision clusters, and of their resources.
import ClusterAudit.Check.Workload
import ClusterAudit.Json.Decode

/-!
# Provisioning

Clusters are provisioned by controllers, together with a provider for the
hypervisor. The checks here look for the controllers, for the provider, for the
definitions of the provider's resources, and for the readiness of the clusters
it manages.

Pods are asked for only in a namespace that was found.
-/

namespace ClusterAudit

open ClusterAudit.Json

namespace Check

/-! ## Controllers -/

/-- Passes if some controller runs, and fails if none does. -/
def judgeControllers (pods : List Pod) : Outcome :=
  let running := runningCount pods
  if 0 < running then .pass s!"CAPI controllers running: {running}/{pods.length}"
  else .fail "No CAPI controllers running"

/-- Whether the namespace of the controllers exists, and whether one of them runs. -/
def controllers (ns : String) : Check :=
  ⟨"CAPI namespace and controllers", do
    let skipped := Outcome.info "Skipping CAPI controller pods: namespace unavailable"
    match ← Probe.cluster (.namespaceNamed ns) with
    | .error fault =>
      return [.fail ("Cannot look up CAPI namespace " ++ ns ++ ": " ++ fault.message), skipped]
    | .ok none => return [.fail ("CAPI namespace " ++ ns ++ " not found"), skipped]
    | .ok (some _) =>
      let found := Outcome.pass ("CAPI namespace " ++ ns ++ " exists")
      match ← Probe.cluster (.pods (some ns) none) with
      | .ok pods => return [found, judgeControllers pods]
      | .error fault => return [found, .fail ("Cannot check CAPI pods: " ++ fault.message)]⟩

/-! ## The provider -/

/-- Passes if some pod of the provider runs, and fails if none does. -/
def judgeProvider (pods : List Pod) : Outcome :=
  let running := runningCount pods
  if 0 < running then
    (Outcome.pass s!"Proxmox CAPI provider running: {running} pod(s)").withDetails
      ((pods.take detailLimit).map Pod.row)
  else .fail "Proxmox CAPI provider not running"

def provider (ns : String) : Check :=
  ⟨"Proxmox CAPI provider (capmox)", do
    match ← Probe.cluster (.namespaceNamed ns) with
    | .error fault => return [.fail ("Cannot look up " ++ ns ++ " namespace: " ++ fault.message)]
    | .ok none => return [.fail (ns ++ " namespace not found")]
    | .ok (some _) =>
      match ← Probe.cluster (.pods (some ns) none) with
      | .ok pods => return [judgeProvider pods]
      | .error fault => return [.fail ("Cannot check capmox pods: " ++ fault.message)]⟩

/-! ## Definitions -/

/-- The required names that are not installed, in their order. -/
def missingDefinitions (required installed : List String) : List String :=
  required.filter fun name => !installed.contains name

/-- Passes if all required definitions are installed, and fails if any is missing. -/
def judgeDefinitions (required installed : List String) : Outcome :=
  let missing := missingDefinitions required installed
  if missing.isEmpty then
    (Outcome.pass s!"All {required.length} Proxmox CRDs installed").withDetails
      (required.map ("✓ " ++ ·))
  else .fail ("Missing CRDs: " ++ String.intercalate ", " missing)

/-- Whether the provider's resources are defined. -/
def definitions (required : List String) : Check :=
  single "Proxmox CRDs" .definitions fun
    | .ok definitions =>
      judgeDefinitions required (definitions.map fun d => d.metadata.shownName)
    | .error fault => .fail ("Cannot check CRDs: " ++ fault.message)

/-! ## Managed clusters -/

/-- The kind of the clusters that the provider manages. -/
def managedKind : CustomKind :=
  { group := "infrastructure.cluster.x-k8s.io", version := "v1alpha1", kind := "ProxmoxCluster"
    plural := "proxmoxclusters" }

/-- The readiness that a status tells; false if it says nothing about it. -/
def statusReady : Json → Decoded Bool
  | .object members => do
    checkMembers [.of "ready" asBool] members
    optional members "ready" false asBool
  | .array items => do
    let ready ←
      match items with
      | value :: _ => asBool value
      | [] => pure false
    checkLength items 1
    return ready
  | other => .error (mismatch other "struct ProxmoxClusterStatus")

/-- Whether a managed cluster is ready; one without a status is not. -/
def managedReady (object : CustomObject) : Except ShapeFault Bool :=
  match object.status with
  | none => .ok false
  | some status =>
    match statusReady status with
    | .ok ready => .ok ready
    | .error misfit =>
      .error ⟨"ProxmoxCluster " ++ object.metadata.shownName, misfit.message⟩

/-- The line of detail about a managed cluster. -/
def managedRow (object : CustomObject) (ready : Bool) : String :=
  object.metadata.shownNs ++ "/" ++ object.metadata.shownName ++ "  ready=" ++ toString ready

/-- Passes if all managed clusters are ready, warns if not, and only informs if there are none. -/
def judgeManaged (objects : List CustomObject) : Except ShapeFault Outcome := do
  if objects.isEmpty then return .info "No ProxmoxCluster resources found"
  let readiness ← objects.mapM managedReady
  let ready := readiness.count true
  let total := objects.length
  let outcome : Outcome :=
    if ready = total then .pass s!"All ProxmoxCluster resources Ready: {ready}/{total}"
    else .warn s!"ProxmoxCluster status: {ready}/{total} Ready"
  return outcome.withDetails (List.zipWith managedRow objects readiness)

def managed : Check :=
  single "ProxmoxCluster resources" (.customObjects managedKind) fun
    | .ok objects =>
      match judgeManaged objects with
      | .ok outcome => outcome
      | .error fault => .fail ("Cannot read ProxmoxCluster status: " ++ fault.message)
    | .error fault => .fail ("Cannot list ProxmoxCluster resources: " ++ fault.message)

end Check

end ClusterAudit
