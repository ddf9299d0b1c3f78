-- SUMMARY: What an audit looks for and where, and the plan of its checks.
import ClusterAudit.Check.Login
import ClusterAudit.Check.Nodes
import ClusterAudit.Check.Provisioning
import ClusterAudit.Check.Storage

/-!
# Configuration and plan

Every namespace, selector, name and timeout that the checks use stands in the
configuration. The plan of an audit follows from it: ten sections of checks, in
a fixed order.
-/

namespace ClusterAudit

/-! ## Configuration -/

/-- What an audit looks for and where. Timeouts are in seconds. -/
structure Config where
  kubeconfig : String := "/root/cozy/mgr-cozy/kubeconfig"
  /-- The namespace of the controllers that provision clusters. -/
  controllerNs : String := "cozy-cluster-api"
  /-- The namespace of the provider for the hypervisor. -/
  providerNs : String := "capmox-system"
  credentialsSecret : String := "capmox-credentials"
  requiredDefinitions : List String :=
    ["proxmoxclusters", "proxmoxmachines", "proxmoxclustertemplates",
      "proxmoxmachinetemplates"].map (· ++ ".infrastructure.cluster.x-k8s.io")
  kernelMarker : String := "pve"
  osImageMarker : String := "proxmox"
  driverMarker : String := "proxmox"
  coreDns : PodTarget := ⟨"kube-system", "k8s-app=kube-dns"⟩
  cilium : PodTarget := ⟨"cozy-cilium", "app.kubernetes.io/name=cilium"⟩
  kubeOvn : PodTarget := ⟨"cozy-kubeovn", "app=kube-ovn-controller"⟩
  prometheus : PodTarget := ⟨"cozy-monitoring", "app.kubernetes.io/name=prometheus"⟩
  grafana : PodTarget := ⟨"cozy-monitoring", "app.kubernetes.io/name=grafana"⟩
  queryTimeout : Nat := 30
  loginTimeout : Nat := 10
  versionTimeout : Nat := 5
deriving DecidableEq, Repr, Inhabited

/-! ## Plans -/

/-- A titled list of checks. -/
structure Section where
  title : String
  checks : List Check

namespace Config

/-- A component that only watches: it may be missing, and may be out of reach. -/
def monitoring (name : String) (target : PodTarget) : Component :=
  { Component.optional name target with whenUnreachable := .warn }

def sections (c : Config) : List Section :=
  [ ⟨"1. Kubernetes Cluster Health",
      [.connectivity, .nodesReady, .workers ⟨c.kernelMarker, c.osImageMarker⟩]⟩,
    ⟨"2. Cluster API Components", [.controllers c.controllerNs]⟩,
    ⟨"3. Proxmox Provider", [.provider c.providerNs]⟩,
    ⟨"4. Proxmox CRDs", [.definitions c.requiredDefinitions]⟩,
    ⟨"5. Proxmox Custom Resources", [.managed]⟩,
    ⟨"6. Network Stack Health",
      [(Component.required "CoreDNS" c.coreDns).check,
        (Component.optional "Cilium" c.cilium).check,
        (Component.required "Kube-OVN controller" c.kubeOvn).check]⟩,
    ⟨"7. Storage Stack Health", [.drivers c.driverMarker, .storageClasses]⟩,
    ⟨"8. Proxmox API Connectivity", [.hypervisor ⟨c.providerNs, c.credentialsSecret⟩]⟩,
    ⟨"9. Monitoring Stack",
      [(monitoring "Prometheus" c.prometheus).check, (monitoring "Grafana" c.grafana).check]⟩,
    ⟨"10. Workload Health Summary", [.errorStates]⟩ ]

end Config

end ClusterAudit
