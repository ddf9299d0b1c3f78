-- SUMMARY: The checks of the storage drivers and classes.
import ClusterAudit.Check.Probe
import ClusterAudit.Text.Lowercase

/-!
# Storage

Whether the hypervisor's storage driver is installed, and which storage classes
there are.
-/

namespace ClusterAudit

/-- The annotation of the class that is used when none is named. -/
def StorageClass.defaultAnnotation : String := "storageclass.kubernetes.io/is-default-class"

/-- Whether a class is used when none is named. -/
def StorageClass.isDefault (c : StorageClass) : Bool :=
  c.metadata.annotation? defaultAnnotation == some "true"

/-- The line of detail about a class. -/
def StorageClass.row (c : StorageClass) : String :=
  c.metadata.shownName ++ (if c.isDefault then " (default)  " else "  ") ++ c.provisioner

namespace Check

/-- Passes if the name of some driver holds the marker, and warns if not. -/
def judgeDriverNames (marker : String) (names : List String) : Outcome :=
  let found := names.filter (Text.containsIgnoreCase · marker)
  if found.isEmpty then .warn "No Proxmox CSI driver found"
  else (Outcome.pass "Proxmox CSI driver found").withDetails found

/-- The judgement on the names that the drivers are shown under. -/
def judgeDrivers (marker : String) (drivers : List Named) : Outcome :=
  judgeDriverNames marker (drivers.map fun d => d.metadata.shownName)

/-- Whether the hypervisor's storage driver is installed. -/
def drivers (marker : String) : Check :=
  single "CSI drivers" .drivers fun
    | .ok drivers => judgeDrivers marker drivers
    | .error fault => .fail ("Cannot list CSI drivers: " ++ fault.message)

/-- Passes if there is any class, and warns if not. -/
def judgeStorageClasses (classes : List StorageClass) : Outcome :=
  if classes.isEmpty then .warn "No storage classes found"
  else
    (Outcome.pass s!"Storage classes found: {classes.length}").withDetails
      (classes.map StorageClass.row)

def storageClasses : Check :=
  single "Storage classes" .storageClasses fun
    | .ok classes => judgeStorageClasses classes
    | .error fault => .fail ("Cannot list storage classes: " ++ fault.message)

end Check

end ClusterAudit
