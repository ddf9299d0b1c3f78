-- SUMMARY: The fields of the Kubernetes records, with the shape of each.
import ClusterAudit.Json.Shape
import ClusterAudit.Text.Base64
import ClusterAudit.Time.Stamp

/-!
# Schema

The records of the Kubernetes API that an answer may hold, version 1.31. An
answer that has a value of the wrong type at any of these places is refused,
also where no check looks at the value.
-/

namespace ClusterAudit.Resource

open ClusterAudit.Json

/-! ## Texts of a special form -/

def timeShape : Shape :=
  .formed "an RFC 3339 formatted date and time string" fun s =>
    match Stamp.parse s with
    | .ok _ => .ok ()
    | .error fault => .error fault.message

/-- The bytes that a text in base64 stands for. -/
def decodeBytes (s : String) : Except Base64.Fault Utf8.Bytes :=
  Base64.decode (Utf8.encode s.toList)

/-- Bytes, written in base64; null stands for none. -/
def bytesShape : Shape :=
  .formedOrNull "a base64-encoded string" fun s =>
    match decodeBytes s with
    | .ok _ => .ok ()
    | .error fault => .error fault.message

/-! ## Records -/

/-- Records that occur in every object, and the version of the control plane. -/
def commonRecords : List (String × List (String × Shape)) :=
  [
    ("ObjectMeta", [("annotations", .table .text), ("creationTimestamp", timeShape),
        ("deletionGracePeriodSeconds", int64Shape), ("deletionTimestamp", timeShape),
        ("finalizers", .list .text), ("generateName", .text), ("generation", int64Shape),
        ("labels", .table .text), ("managedFields", .list (.resource "ManagedFieldsEntry")),
        ("name", .text), ("namespace", .text),
        ("ownerReferences", .list (.resource "OwnerReference")), ("resourceVersion", .text),
        ("selfLink", .text), ("uid", .text)]),
    ("ManagedFieldsEntry", [("apiVersion", .text), ("fieldsType", .text),
        ("fieldsV1", .anything), ("manager", .text), ("operation", .text),
        ("subresource", .text), ("time", timeShape)]),
    ("OwnerReference", [("apiVersion", .text), ("blockOwnerDeletion", .flag),
        ("controller", .flag), ("kind", .text), ("name", .text), ("uid", .text)]),
    ("ListMeta", [("continue", .text), ("remainingItemCount", int64Shape),
        ("resourceVersion", .text), ("selfLink", .text)]),
    ("Info", [("buildDate", .text), ("compiler", .text), ("gitCommit", .text),
        ("gitTreeState", .text), ("gitVersion", .text), ("goVersion", .text), ("major", .text),
        ("minor", .text), ("platform", .text)])
  ]

def podRecords : List (String × List (String × Shape)) :=
  [
    ("Pod", [("apiVersion", .constant "v1"), ("kind", .constant "Pod"),
        ("metadata", .resource "ObjectMeta"), ("spec", .resource "PodSpec"),
        ("status", .resource "PodStatus")]),
    ("PodStatus", [("conditions", .list (.resource "PodCondition")),
        ("containerStatuses", .list (.resource "ContainerStatus")),
        ("ephemeralContainerStatuses", .list (.resource "ContainerStatus")), ("hostIP", .text),
        ("hostIPs", .list (.resource "HostIP")),
        ("initContainerStatuses", .list (.resource "ContainerStatus")), ("message", .text),
        ("nominatedNodeName", .text), ("phase", .text), ("podIP", .text),
        ("podIPs", .list (.resource "PodIP")), ("qosClass", .text), ("reason", .text),
        ("resize", .text), ("resourceClaimStatuses", .list (.resource "PodResourceClaimStatus")),
        ("startTime", timeShape)]),
    ("PodCondition", [("lastProbeTime", timeShape), ("lastTransitionTime", timeShape),
        ("message", .text), ("reason", .text), ("status", .text), ("type", .text)]),
    ("HostIP", [("ip", .text)]),
    ("PodIP", [("ip", .text)]),
    ("PodResourceClaimStatus", [("name", .text), ("resourceClaimName", .text)]),
    ("ContainerStatus", [("allocatedResources", .table .text),
        ("allocatedResourcesStatus", .list (.resource "ResourceStatus")), ("containerID", .text),
        ("image", .text), ("imageID", .text), ("lastState", .resource "ContainerState"),
        ("name", .text), ("ready", .flag), ("resources", .resource "ResourceRequirements"),
        ("restartCount", int32Shape), ("started", .flag), ("state", .resource "ContainerState"),
        ("user", .resource "ContainerUser"),
        ("volumeMounts", .list (.resource "VolumeMountStatus"))]),
    ("ResourceStatus", [("name", .text), ("resources", .list (.resource "ResourceHealth"))]),
    ("ResourceHealth", [("health", .text), ("resourceID", .text)]),
    ("ContainerState", [("running", .resource "ContainerStateRunning"),
        ("terminated", .resource "ContainerStateTerminated"),
        ("waiting", .resource "ContainerStateWaiting")]),
    ("ContainerStateRunning", [("startedAt", timeShape)]),
    ("ContainerStateTerminated", [("containerID", .text), ("exitCode", int32Shape),
        ("finishedAt", timeShape), ("message", .text), ("reason", .text), ("signal", int32Shape),
        ("startedAt", timeShape)]),
    ("ContainerStateWaiting", [("message", .text), ("reason", .text)]),
    ("ContainerUser", [("linux", .resource "LinuxContainerUser")]),
    ("LinuxContainerUser", [("gid", int64Shape), ("supplementalGroups", .list int64Shape),
        ("uid", int64Shape)]),
    ("VolumeMountStatus", [("mountPath", .text), ("name", .text), ("readOnly", .flag),
        ("recursiveReadOnly", .text)]),
    ("PodSpec", [("activeDeadlineSeconds", int64Shape), ("affinity", .resource "Affinity"),
        ("automountServiceAccountToken", .flag), ("containers", .list (.resource "Container")),
        ("dnsConfig", .resource "PodDNSConfig"), ("dnsPolicy", .text),
        ("enableServiceLinks", .flag),
        ("ephemeralContainers", .list (.resource "EphemeralContainer")),
        ("hostAliases", .list (.resource "HostAlias")), ("hostIPC", .flag),
        ("hostNetwork", .flag), ("hostPID", .flag), ("hostUsers", .flag), ("hostname", .text),
        ("imagePullSecrets", .list (.resource "LocalObjectReference")),
        ("initContainers", .list (.resource "Container")), ("nodeName", .text),
        ("nodeSelector", .table .text), ("os", .resource "PodOS"), ("overhead", .table .text),
        ("preemptionPolicy", .text), ("priority", int32Shape), ("priorityClassName", .text),
        ("readinessGates", .list (.resource "PodReadinessGate")),
        ("resourceClaims", .list (.resource "PodResourceClaim")), ("restartPolicy", .text),
        ("runtimeClassName", .text), ("schedulerName", .text),
        ("schedulingGates", .list (.resource "PodSchedulingGate")),
        ("securityContext", .resource "PodSecurityContext"), ("serviceAccount", .text),
        ("serviceAccountName", .text), ("setHostnameAsFQDN", .flag),
        ("shareProcessNamespace", .flag), ("subdomain", .text),
        ("terminationGracePeriodSeconds", int64Shape),
        ("tolerations", .list (.resource "Toleration")),
        ("topologySpreadConstraints", .list (.resource "TopologySpreadConstraint")),
        ("volumes", .list (.resource "Volume"))]),
    ("PodDNSConfig", [("nameservers", .list .text),
        ("options", .list (.resource "PodDNSConfigOption")), ("searches", .list .text)]),
    ("PodDNSConfigOption", [("name", .text), ("value", .text)]),
    ("HostAlias", [("hostnames", .list .text), ("ip", .text)]),
    ("LocalObjectReference", [("name", .text)]),
    ("PodOS", [("name", .text)]),
    ("PodReadinessGate", [("conditionType", .text)]),
    ("PodResourceClaim", [("name", .text), ("resourceClaimName", .text),
        ("resourceClaimTemplateName", .text)]),
    ("PodSchedulingGate", [("name", .text)]),
    ("PodSecurityContext", [("appArmorProfile", .resource "AppArmorProfile"),
        ("fsGroup", int64Shape), ("fsGroupChangePolicy", .text), ("runAsGroup", int64Shape),
        ("runAsNonRoot", .flag), ("runAsUser", int64Shape),
        ("seLinuxOptions", .resource "SELinuxOptions"),
        ("seccompProfile", .resource "SeccompProfile"), ("supplementalGroups", .list int64Shape),
        ("supplementalGroupsPolicy", .text), ("sysctls", .list (.resource "Sysctl")),
        ("windowsOptions", .resource "WindowsSecurityContextOptions")]),
    ("AppArmorProfile", [("localhostProfile", .text), ("type", .text)]),
    ("SELinuxOptions", [("level", .text), ("role", .text), ("type", .text), ("user", .text)]),
    ("SeccompProfile", [("localhostProfile", .text), ("type", .text)]),
    ("Sysctl", [("name", .text), ("value", .text)]),
    ("WindowsSecurityContextOptions", [("gmsaCredentialSpec", .text),
        ("gmsaCredentialSpecName", .text), ("hostProcess", .flag), ("runAsUserName", .text)]),
    ("Toleration", [("effect", .text), ("key", .text), ("operator", .text),
        ("tolerationSeconds", int64Shape), ("value", .text)]),
    ("TopologySpreadConstraint", [("labelSelector", .resource "LabelSelector"),
        ("matchLabelKeys", .list .text), ("maxSkew", int32Shape), ("minDomains", int32Shape),
        ("nodeAffinityPolicy", .text), ("nodeTaintsPolicy", .text), ("topologyKey", .text),
        ("whenUnsatisfiable", .text)]),
    ("LabelSelector", [("matchExpressions", .list (.resource "LabelSelectorRequirement")),
        ("matchLabels", .table .text)]),
    ("LabelSelectorRequirement", [("key", .text), ("operator", .text), ("values", .list .text)]),
    ("Affinity", [("nodeAffinity", .resource "NodeAffinity"),
        ("podAffinity", .resource "PodAffinity"),
        ("podAntiAffinity", .resource "PodAntiAffinity")]),
    ("NodeAffinity", [
        ("preferredDuringSchedulingIgnoredDuringExecution",
          .list (.resource "PreferredSchedulingTerm")),
        ("requiredDuringSchedulingIgnoredDuringExecution", .resource "NodeSelector")]),
    ("PreferredSchedulingTerm", [("preference", .resource "NodeSelectorTerm"),
        ("weight", int32Shape)]),
    ("NodeSelector", [("nodeSelectorTerms", .list (.resource "NodeSelectorTerm"))]),
    ("NodeSelectorTerm", [("matchExpressions", .list (.resource "NodeSelectorRequirement")),
        ("matchFields", .list (.resource "NodeSelectorRequirement"))]),
    ("NodeSelectorRequirement", [("key", .text), ("operator", .text), ("values", .list .text)]),
    ("PodAffinity", [
        ("preferredDuringSchedulingIgnoredDuringExecution",
          .list (.resource "WeightedPodAffinityTerm")),
        ("requiredDuringSchedulingIgnoredDuringExecution",
          .list (.resource "PodAffinityTerm"))]),
    ("PodAntiAffinity", [
        ("preferredDuringSchedulingIgnoredDuringExecution",
          .list (.resource "WeightedPodAffinityTerm")),
        ("requiredDuringSchedulingIgnoredDuringExecution",
          .list (.resource "PodAffinityTerm"))]),
    ("WeightedPodAffinityTerm", [("podAffinityTerm", .resource "PodAffinityTerm"),
        ("weight", int32Shape)]),
    ("PodAffinityTerm", [("labelSelector", .resource "LabelSelector"),
        ("matchLabelKeys", .list .text), ("mismatchLabelKeys", .list .text),
        ("namespaceSelector", .resource "LabelSelector"), ("namespaces", .list .text),
        ("topologyKey", .text)])
  ]

def containerRecords : List (String × List (String × Shape)) :=
  [
    ("Container", [("args", .list .text), ("command", .list .text),
        ("env", .list (.resource "EnvVar")), ("envFrom", .list (.resource "EnvFromSource")),
        ("image", .text), ("imagePullPolicy", .text), ("lifecycle", .resource "Lifecycle"),
        ("livenessProbe", .resource "Probe"), ("name", .text),
        ("ports", .list (.resource "ContainerPort")), ("readinessProbe", .resource "Probe"),
        ("resizePolicy", .list (.resource "ContainerResizePolicy")),
        ("resources", .resource "ResourceRequirements"), ("restartPolicy", .text),
        ("securityContext", .resource "SecurityContext"), ("startupProbe", .resource "Probe"),
        ("stdin", .flag), ("stdinOnce", .flag), ("terminationMessagePath", .text),
        ("terminationMessagePolicy", .text), ("tty", .flag),
        ("volumeDevices", .list (.resource "VolumeDevice")),
        ("volumeMounts", .list (.resource "VolumeMount")), ("workingDir", .text)]),
    ("EphemeralContainer", [("args", .list .text), ("command", .list .text),
        ("env", .list (.resource "EnvVar")), ("envFrom", .list (.resource "EnvFromSource")),
        ("image", .text), ("imagePullPolicy", .text), ("lifecycle", .resource "Lifecycle"),
        ("livenessProbe", .resource "Probe"), ("name", .text),
        ("ports", .list (.resource "ContainerPort")), ("readinessProbe", .resource "Probe"),
        ("resizePolicy", .list (.resource "ContainerResizePolicy")),
        ("resources", .resource "ResourceRequirements"), ("restartPolicy", .text),
        ("securityContext", .resource "SecurityContext"), ("startupProbe", .resource "Probe"),
        ("stdin", .flag), ("stdinOnce", .flag), ("targetContainerName", .text),
        ("terminationMessagePath", .text), ("terminationMessagePolicy", .text), ("tty", .flag),
        ("volumeDevices", .list (.resource "VolumeDevice")),
        ("volumeMounts", .list (.resource "VolumeMount")), ("workingDir", .text)]),
    ("EnvVar", [("name", .text), ("value", .text), ("valueFrom", .resource "EnvVarSource")]),
    ("EnvVarSource", [("configMapKeyRef", .resource "ConfigMapKeySelector"),
        ("fieldRef", .resource "ObjectFieldSelector"),
        ("resourceFieldRef", .resource "ResourceFieldSelector"),
        ("secretKeyRef", .resource "SecretKeySelector")]),
    ("ConfigMapKeySelector", [("key", .text), ("name", .text), ("optional", .flag)]),
    ("SecretKeySelector", [("key", .text), ("name", .text), ("optional", .flag)]),
    ("ObjectFieldSelector", [("apiVersion", .text), ("fieldPath", .text)]),
    ("ResourceFieldSelector", [("containerName", .text), ("divisor", .text), ("resource", .text)]),
    ("EnvFromSource", [("configMapRef", .resource "ConfigMapEnvSource"), ("prefix", .text),
        ("secretRef", .resource "SecretEnvSource")]),
    ("ConfigMapEnvSource", [("name", .text), ("optional", .flag)]),
    ("SecretEnvSource", [("name", .text), ("optional", .flag)]),
    ("Lifecycle", [("postStart", .resource "LifecycleHandler"),
        ("preStop", .resource "LifecycleHandler")]),
    ("LifecycleHandler", [("exec", .resource "ExecAction"),
        ("httpGet", .resource "HTTPGetAction"), ("sleep", .resource "SleepAction"),
        ("tcpSocket", .resource "TCPSocketAction")]),
    ("ExecAction", [("command", .list .text)]),
    ("HTTPGetAction", [("host", .text), ("httpHeaders", .list (.resource "HTTPHeader")),
        ("path", .text), ("port", .integerOrText), ("scheme", .text)]),
    ("HTTPHeader", [("name", .text), ("value", .text)]),
    ("SleepAction", [("seconds", int64Shape)]),
    ("TCPSocketAction", [("host", .text), ("port", .integerOrText)]),
    ("GRPCAction", [("port", int32Shape), ("service", .text)]),
    ("Probe", [("exec", .resource "ExecAction"), ("failureThreshold", int32Shape),
        ("grpc", .resource "GRPCAction"), ("httpGet", .resource "HTTPGetAction"),
        ("initialDelaySeconds", int32Shape), ("periodSeconds", int32Shape),
        ("successThreshold", int32Shape), ("tcpSocket", .resource "TCPSocketAction"),
        ("terminationGracePeriodSeconds", int64Shape), ("timeoutSeconds", int32Shape)]),
    ("ContainerPort", [("containerPort", int32Shape), ("hostIP", .text),
        ("hostPort", int32Shape), ("name", .text), ("protocol", .text)]),
    ("ContainerResizePolicy", [("resourceName", .text), ("restartPolicy", .text)]),
    ("ResourceRequirements", [("claims", .list (.resource "ResourceClaim")),
        ("limits", .table .text), ("requests", .table .text)]),
    ("ResourceClaim", [("name", .text), ("request", .text)]),
    ("SecurityContext", [("allowPrivilegeEscalation", .flag),
        ("appArmorProfile", .resource "AppArmorProfile"),
        ("capabilities", .resource "Capabilities"), ("privileged", .flag), ("procMount", .text),
        ("readOnlyRootFilesystem", .flag), ("runAsGroup", int64Shape), ("runAsNonRoot", .flag),
        ("runAsUser", int64Shape), ("seLinuxOptions", .resource "SELinuxOptions"),
        ("seccompProfile", .resource "SeccompProfile"),
        ("windowsOptions", .resource "WindowsSecurityContextOptions")]),
    ("Capabilities", [("add", .list .text), ("drop", .list .text)]),
    ("VolumeDevice", [("devicePath", .text), ("name", .text)]),
    ("VolumeMount", [("mountPath", .text), ("mountPropagation", .text), ("name", .text),
        ("readOnly", .flag), ("recursiveReadOnly", .text), ("subPath", .text),
        ("subPathExpr", .text)])
  ]

def volumeRecords : List (String × List (String × Shape)) :=
  [
    ("Volume", [("awsElasticBlockStore", .resource "AWSElasticBlockStoreVolumeSource"),
        ("azureDisk", .resource "AzureDiskVolumeSource"),
        ("azureFile", .resource "AzureFileVolumeSource"),
        ("cephfs", .resource "CephFSVolumeSource"), ("cinder", .resource "CinderVolumeSource"),
        ("configMap", .resource "ConfigMapVolumeSource"), ("csi", .resource "CSIVolumeSource"),
        ("downwardAPI", .resource "DownwardAPIVolumeSource"),
        ("emptyDir", .resource "EmptyDirVolumeSource"),
        ("ephemeral", .resource "EphemeralVolumeSource"), ("fc", .resource "FCVolumeSource"),
        ("flexVolume", .resource "FlexVolumeSource"), ("flocker", .resource "FlockerVolumeSource"),
        ("gcePersistentDisk", .resource "GCEPersistentDiskVolumeSource"),
        ("gitRepo", .resource "GitRepoVolumeSource"),
        ("glusterfs", .resource "GlusterfsVolumeSource"),
        ("hostPath", .resource "HostPathVolumeSource"), ("image", .resource "ImageVolumeSource"),
        ("iscsi", .resource "ISCSIVolumeSource"), ("name", .text),
        ("nfs", .resource "NFSVolumeSource"),
        ("persistentVolumeClaim", .resource "PersistentVolumeClaimVolumeSource"),
        ("photonPersistentDisk", .resource "PhotonPersistentDiskVolumeSource"),
        ("portworxVolume", .resource "PortworxVolumeSource"),
        ("projected", .resource "ProjectedVolumeSource"),
        ("quobyte", .resource "QuobyteVolumeSource"), ("rbd", .resource "RBDVolumeSource"),
        ("scaleIO", .resource "ScaleIOVolumeSource"), ("secret", .resource "SecretVolumeSource"),
        ("storageos", .resource "StorageOSVolumeSource"),
        ("vsphereVolume", .resource "VsphereVirtualDiskVolumeSource")]),
    ("AWSElasticBlockStoreVolumeSource", [("fsType", .text), ("partition", int32Shape),
        ("readOnly", .flag), ("volumeID", .text)]),
    ("AzureDiskVolumeSource", [("cachingMode", .text), ("diskName", .text), ("diskURI", .text),
        ("fsType", .text), ("kind", .text), ("readOnly", .flag)]),
    ("AzureFileVolumeSource", [("readOnly", .flag), ("secretName", .text), ("shareName", .text)]),
    ("CephFSVolumeSource", [("monitors", .list .text), ("path", .text), ("readOnly", .flag),
        ("secretFile", .text), ("secretRef", .resource "LocalObjectReference"), ("user", .text)]),
    ("CinderVolumeSource", [("fsType", .text), ("readOnly", .flag),
        ("secretRef", .resource "LocalObjectReference"), ("volumeID", .text)]),
    ("EphemeralVolumeSource", [("volumeClaimTemplate", .resource "PersistentVolumeClaimTemplate")]),
    ("PersistentVolumeClaimTemplate", [("metadata", .resource "ObjectMeta"),
        ("spec", .resource "PersistentVolumeClaimSpec")]),
    ("PersistentVolumeClaimSpec", [("accessModes", .list .text),
        ("dataSource", .resource "TypedLocalObjectReference"),
        ("dataSourceRef", .resource "TypedObjectReference"),
        ("resources", .resource "VolumeResourceRequirements"),
        ("selector", .resource "LabelSelector"), ("storageClassName", .text),
        ("volumeAttributesClassName", .text), ("volumeMode", .text), ("volumeName", .text)]),
    ("TypedLocalObjectReference", [("apiGroup", .text), ("kind", .text), ("name", .text)]),
    ("TypedObjectReference", [("apiGroup", .text), ("kind", .text), ("name", .text),
        ("namespace", .text)]),
    ("VolumeResourceRequirements", [("limits", .table .text), ("requests", .table .text)]),
    ("FCVolumeSource", [("fsType", .text), ("lun", int32Shape), ("readOnly", .flag),
        ("targetWWNs", .list .text), ("wwids", .list .text)]),
    ("FlexVolumeSource", [("driver", .text), ("fsType", .text), ("options", .table .text),
        ("readOnly", .flag), ("secretRef", .resource "LocalObjectReference")]),
    ("FlockerVolumeSource", [("datasetName", .text), ("datasetUUID", .text)]),
    ("GCEPersistentDiskVolumeSource", [("fsType", .text), ("partition", int32Shape),
        ("pdName", .text), ("readOnly", .flag)]),
    ("GitRepoVolumeSource", [("directory", .text), ("repository", .text), ("revision", .text)]),
    ("GlusterfsVolumeSource", [("endpoints", .text), ("path", .text), ("readOnly", .flag)]),
    ("ISCSIVolumeSource", [("chapAuthDiscovery", .flag), ("chapAuthSession", .flag),
        ("fsType", .text), ("initiatorName", .text), ("iqn", .text), ("iscsiInterface", .text),
        ("lun", int32Shape), ("portals", .list .text), ("readOnly", .flag),
        ("secretRef", .resource "LocalObjectReference"), ("targetPortal", .text)]),
    ("PhotonPersistentDiskVolumeSource", [("fsType", .text), ("pdID", .text)]),
    ("PortworxVolumeSource", [("fsType", .text), ("readOnly", .flag), ("volumeID", .text)]),
    ("QuobyteVolumeSource", [("group", .text), ("readOnly", .flag), ("registry", .text),
        ("tenant", .text), ("user", .text), ("volume", .text)]),
    ("RBDVolumeSource", [("fsType", .text), ("image", .text), ("keyring", .text),
        ("monitors", .list .text), ("pool", .text), ("readOnly", .flag),
        ("secretRef", .resource "LocalObjectReference"), ("user", .text)]),
    ("ScaleIOVolumeSource", [("fsType", .text), ("gateway", .text), ("protectionDomain", .text),
        ("readOnly", .flag), ("secretRef", .resource "LocalObjectReference"), ("sslEnabled", .flag),
        ("storageMode", .text), ("storagePool", .text), ("system", .text), ("volumeName", .text)]),
    ("StorageOSVolumeSource", [("fsType", .text), ("readOnly", .flag),
        ("secretRef", .resource "LocalObjectReference"), ("volumeName", .text),
        ("volumeNamespace", .text)]),
    ("VsphereVirtualDiskVolumeSource", [("fsType", .text), ("storagePolicyID", .text),
        ("storagePolicyName", .text), ("volumePath", .text)]),
    ("ConfigMapVolumeSource", [("defaultMode", int32Shape),
        ("items", .list (.resource "KeyToPath")), ("name", .text), ("optional", .flag)]),
    ("SecretVolumeSource", [("defaultMode", int32Shape),
        ("items", .list (.resource "KeyToPath")), ("optional", .flag), ("secretName", .text)]),
    ("KeyToPath", [("key", .text), ("mode", int32Shape), ("path", .text)]),
    ("CSIVolumeSource", [("driver", .text), ("fsType", .text),
        ("nodePublishSecretRef", .resource "LocalObjectReference"), ("readOnly", .flag),
        ("volumeAttributes", .table .text)]),
    ("DownwardAPIVolumeSource", [("defaultMode", int32Shape),
        ("items", .list (.resource "DownwardAPIVolumeFile"))]),
    ("DownwardAPIVolumeFile", [("fieldRef", .resource "ObjectFieldSelector"),
        ("mode", int32Shape), ("path", .text),
        ("resourceFieldRef", .resource "ResourceFieldSelector")]),
    ("EmptyDirVolumeSource", [("medium", .text), ("sizeLimit", .text)]),
    ("HostPathVolumeSource", [("path", .text), ("type", .text)]),
    ("ImageVolumeSource", [("pullPolicy", .text), ("reference", .text)]),
    ("NFSVolumeSource", [("path", .text), ("readOnly", .flag), ("server", .text)]),
    ("PersistentVolumeClaimVolumeSource", [("claimName", .text), ("readOnly", .flag)]),
    ("ProjectedVolumeSource", [("defaultMode", int32Shape),
        ("sources", .list (.resource "VolumeProjection"))]),
    ("VolumeProjection", [("clusterTrustBundle", .resource "ClusterTrustBundleProjection"),
        ("configMap", .resource "ConfigMapProjection"),
        ("downwardAPI", .resource "DownwardAPIProjection"),
        ("secret", .resource "SecretProjection"),
        ("serviceAccountToken", .resource "ServiceAccountTokenProjection")]),
    ("ClusterTrustBundleProjection", [("labelSelector", .resource "LabelSelector"), ("name", .text),
        ("optional", .flag), ("path", .text), ("signerName", .text)]),
    ("ConfigMapProjection", [("items", .list (.resource "KeyToPath")), ("name", .text),
        ("optional", .flag)]),
    ("SecretProjection", [("items", .list (.resource "KeyToPath")), ("name", .text),
        ("optional", .flag)]),
    ("DownwardAPIProjection", [("items", .list (.resource "DownwardAPIVolumeFile"))]),
    ("ServiceAccountTokenProjection", [("audience", .text), ("expirationSeconds", int64Shape),
        ("path", .text)])
  ]

def nodeRecords : List (String × List (String × Shape)) :=
  [
    ("Node", [("apiVersion", .constant "v1"), ("kind", .constant "Node"),
        ("metadata", .resource "ObjectMeta"), ("spec", .resource "NodeSpec"),
        ("status", .resource "NodeStatus")]),
    ("NodeSpec", [("configSource", .resource "NodeConfigSource"), ("externalID", .text),
        ("podCIDR", .text), ("podCIDRs", .list .text), ("providerID", .text),
        ("taints", .list (.resource "Taint")), ("unschedulable", .flag)]),
    ("NodeConfigSource", [("configMap", .resource "ConfigMapNodeConfigSource")]),
    ("ConfigMapNodeConfigSource", [("kubeletConfigKey", .text), ("name", .text),
        ("namespace", .text), ("resourceVersion", .text), ("uid", .text)]),
    ("Taint", [("effect", .text), ("key", .text), ("timeAdded", timeShape), ("value", .text)]),
    ("NodeStatus", [("addresses", .list (.resource "NodeAddress")),
        ("allocatable", .table .text), ("capacity", .table .text),
        ("conditions", .list (.resource "NodeCondition")),
        ("config", .resource "NodeConfigStatus"),
        ("daemonEndpoints", .resource "NodeDaemonEndpoints"),
        ("features", .resource "NodeFeatures"), ("images", .list (.resource "ContainerImage")),
        ("nodeInfo", .resource "NodeSystemInfo"), ("phase", .text),
        ("runtimeHandlers", .list (.resource "NodeRuntimeHandler")),
        ("volumesAttached", .list (.resource "AttachedVolume")), ("volumesInUse", .list .text)]),
    ("NodeAddress", [("address", .text), ("type", .text)]),
    ("NodeCondition", [("lastHeartbeatTime", timeShape), ("lastTransitionTime", timeShape),
        ("message", .text), ("reason", .text), ("status", .text), ("type", .text)]),
    ("NodeConfigStatus", [("active", .resource "NodeConfigSource"),
        ("assigned", .resource "NodeConfigSource"), ("error", .text),
        ("lastKnownGood", .resource "NodeConfigSource")]),
    ("NodeDaemonEndpoints", [("kubeletEndpoint", .resource "DaemonEndpoint")]),
    ("DaemonEndpoint", [("Port", int32Shape)]),
    ("NodeFeatures", [("supplementalGroupsPolicy", .flag)]),
    ("ContainerImage", [("names", .list .text), ("sizeBytes", int64Shape)]),
    ("NodeSystemInfo", [("architecture", .text), ("bootID", .text),
        ("containerRuntimeVersion", .text), ("kernelVersion", .text),
        ("kubeProxyVersion", .text), ("kubeletVersion", .text), ("machineID", .text),
        ("operatingSystem", .text), ("osImage", .text), ("systemUUID", .text)]),
    ("NodeRuntimeHandler", [("features", .resource "NodeRuntimeHandlerFeatures"),
        ("name", .text)]),
    ("NodeRuntimeHandlerFeatures", [("recursiveReadOnlyMounts", .flag),
        ("userNamespaces", .flag)]),
    ("AttachedVolume", [("devicePath", .text), ("name", .text)])
  ]

def coreRecords : List (String × List (String × Shape)) :=
  [
    ("Namespace", [("apiVersion", .constant "v1"), ("kind", .constant "Namespace"),
        ("metadata", .resource "ObjectMeta"), ("spec", .resource "NamespaceSpec"),
        ("status", .resource "NamespaceStatus")]),
    ("NamespaceSpec", [("finalizers", .list .text)]),
    ("NamespaceStatus", [("conditions", .list (.resource "NamespaceCondition")),
        ("phase", .text)]),
    ("NamespaceCondition", [("lastTransitionTime", timeShape), ("message", .text),
        ("reason", .text), ("status", .text), ("type", .text)]),
    ("Secret", [("apiVersion", .constant "v1"), ("kind", .constant "Secret"),
        ("data", .table bytesShape), ("immutable", .flag), ("metadata", .resource "ObjectMeta"),
        ("stringData", .table .text), ("type", .text)])
  ]

def storageRecords : List (String × List (String × Shape)) :=
  [
    ("CSIDriver", [("apiVersion", .constant "storage.k8s.io/v1"),
        ("kind", .constant "CSIDriver"), ("metadata", .resource "ObjectMeta"),
        ("spec", .resource "CSIDriverSpec")]),
    ("CSIDriverSpec", [("attachRequired", .flag), ("fsGroupPolicy", .text),
        ("podInfoOnMount", .flag), ("requiresRepublish", .flag), ("seLinuxMount", .flag),
        ("storageCapacity", .flag), ("tokenRequests", .list (.resource "TokenRequest")),
        ("volumeLifecycleModes", .list .text)]),
    ("TokenRequest", [("audience", .text), ("expirationSeconds", int64Shape)]),
    ("StorageClass", [("allowVolumeExpansion", .flag),
        ("allowedTopologies", .list (.resource "TopologySelectorTerm")),
        ("apiVersion", .constant "storage.k8s.io/v1"), ("kind", .constant "StorageClass"),
        ("metadata", .resource "ObjectMeta"), ("mountOptions", .list .text),
        ("parameters", .table .text), ("provisioner", .text), ("reclaimPolicy", .text),
        ("volumeBindingMode", .text)]),
    ("TopologySelectorTerm", [
        ("matchLabelExpressions", .list (.resource "TopologySelectorLabelRequirement"))]),
    ("TopologySelectorLabelRequirement", [("key", .text), ("values", .list .text)])
  ]

/-- A schema of a resource, or a value of another shape. -/
def schemaOr (title : String) (other : Shape) : Shape :=
  .resourceOr title "JSONSchemaProps" other

/-- Definitions of resources, with the schemas of these. -/
def definitionRecords : List (String × List (String × Shape)) :=
  [
    ("CustomResourceDefinition", [("apiVersion", .constant "apiextensions.k8s.io/v1"),
        ("kind", .constant "CustomResourceDefinition"), ("metadata", .resource "ObjectMeta"),
        ("spec", .resource "CustomResourceDefinitionSpec"),
        ("status", .resource "CustomResourceDefinitionStatus")]),
    ("CustomResourceDefinitionSpec", [("conversion", .resource "CustomResourceConversion"),
        ("group", .text), ("names", .resource "CustomResourceDefinitionNames"),
        ("preserveUnknownFields", .flag), ("scope", .text),
        ("versions", .list (.resource "CustomResourceDefinitionVersion"))]),
    ("CustomResourceConversion", [("strategy", .text),
        ("webhook", .resource "WebhookConversion")]),
    ("WebhookConversion", [("clientConfig", .resource "WebhookClientConfig"),
        ("conversionReviewVersions", .list .text)]),
    ("WebhookClientConfig", [("caBundle", bytesShape), ("service", .resource "ServiceReference"),
        ("url", .text)]),
    ("ServiceReference", [("name", .text), ("namespace", .text), ("path", .text),
        ("port", int32Shape)]),
    ("CustomResourceDefinitionNames", [("categories", .list .text), ("kind", .text),
        ("listKind", .text), ("plural", .text), ("shortNames", .list .text), ("singular", .text)]),
    ("CustomResourceDefinitionVersion", [
        ("additionalPrinterColumns", .list (.resource "CustomResourceColumnDefinition")),
        ("deprecated", .flag), ("deprecationWarning", .text), ("name", .text),
        ("schema", .resource "CustomResourceValidation"),
        ("selectableFields", .list (.resource "SelectableField")), ("served", .flag),
        ("storage", .flag), ("subresources", .resource "CustomResourceSubresources")]),
    ("CustomResourceColumnDefinition", [("description", .text), ("format", .text),
        ("jsonPath", .text), ("name", .text), ("priority", int32Shape), ("type", .text)]),
    ("CustomResourceValidation", [("openAPIV3Schema", .resource "JSONSchemaProps")]),
    ("JSONSchemaProps", [("$ref", .text), ("$schema", .text),
        ("additionalItems", schemaOr "JSONSchemaPropsOrBool" .flag),
        ("additionalProperties", schemaOr "JSONSchemaPropsOrBool" .flag),
        ("allOf", .list (.resource "JSONSchemaProps")),
        ("anyOf", .list (.resource "JSONSchemaProps")), ("default", .anything),
        ("definitions", .table (.resource "JSONSchemaProps")),
        ("dependencies", .table (schemaOr "JSONSchemaPropsOrStringArray" (.list .text))),
        ("description", .text), ("enum", .list .anything), ("example", .anything),
        ("exclusiveMaximum", .flag), ("exclusiveMinimum", .flag),
        ("externalDocs", .resource "ExternalDocumentation"), ("format", .text), ("id", .text),
        ("items", schemaOr "JSONSchemaPropsOrArray" (.list (.resource "JSONSchemaProps"))),
        ("maxItems", int64Shape), ("maxLength", int64Shape), ("maxProperties", int64Shape),
        ("maximum", .number), ("minItems", int64Shape), ("minLength", int64Shape),
        ("minProperties", int64Shape), ("minimum", .number), ("multipleOf", .number),
        ("not", .resource "JSONSchemaProps"), ("nullable", .flag),
        ("oneOf", .list (.resource "JSONSchemaProps")), ("pattern", .text),
        ("patternProperties", .table (.resource "JSONSchemaProps")),
        ("properties", .table (.resource "JSONSchemaProps")), ("required", .list .text),
        ("title", .text), ("type", .text), ("uniqueItems", .flag),
        ("x-kubernetes-embedded-resource", .flag), ("x-kubernetes-int-or-string", .flag),
        ("x-kubernetes-list-map-keys", .list .text), ("x-kubernetes-list-type", .text),
        ("x-kubernetes-map-type", .text), ("x-kubernetes-preserve-unknown-fields", .flag),
        ("x-kubernetes-validations", .list (.resource "ValidationRule"))]),
    ("ExternalDocumentation", [("description", .text), ("url", .text)]),
    ("ValidationRule", [("fieldPath", .text), ("message", .text), ("messageExpression", .text),
        ("optionalOldSelf", .flag), ("reason", .text), ("rule", .text)]),
    ("SelectableField", [("jsonPath", .text)]),
    ("CustomResourceSubresources", [("scale", .resource "CustomResourceSubresourceScale"),
        ("status", .anything)]),
    ("CustomResourceSubresourceScale", [("labelSelectorPath", .text),
        ("specReplicasPath", .text), ("statusReplicasPath", .text)]),
    ("CustomResourceDefinitionStatus", [
        ("acceptedNames", .resource "CustomResourceDefinitionNames"),
        ("conditions", .list (.resource "CustomResourceDefinitionCondition")),
        ("storedVersions", .list .text)]),
    ("CustomResourceDefinitionCondition", [("lastTransitionTime", timeShape), ("message", .text),
        ("reason", .text), ("status", .text), ("type", .text)])
  ]

def records : List (String × List (String × Shape)) :=
  commonRecords ++ podRecords ++ containerRecords ++ volumeRecords ++ nodeRecords
    ++ coreRecords ++ storageRecords ++ definitionRecords

def schema : Schema := fun title => (field? records title).getD []

/-- The records that a shape goes on with. -/
def titles : Shape → List String
  | .nullable shape | .list shape | .table shape => titles shape
  | .resource title => [title]
  | .resourceOr _ record other => record :: titles other
  | _ => []

/-- Every record with which a field goes on is among the records. -/
theorem titles_mem_records :
    ∀ record ∈ records, ∀ field ∈ record.2, ∀ title ∈ titles field.2,
      title ∈ records.map Prod.fst := by
  decide +kernel

/-! ## Documents -/

/-- An object of a kind that is defined by the cluster. -/
def customObject : Shape :=
  .openRecord "struct DynamicObject" [("metadata", .never, .resource "ObjectMeta")]

/-- A list of objects, as it answers a query. -/
def listOf (item : Shape) : Shape :=
  .openRecord "struct ObjectList"
    [("metadata", .never, .resource "ListMeta"), ("items", .always, .nullable (.list item))]

end ClusterAudit.Resource
