-- SUMMARY: The command line.
import ClusterAudit.CommandLine.Program
import Std.Time.DateTime.Timestamp

/-!
# Command line

The program over the real arguments, variables, files and clock. It opens no
connections: every request ends as one that did not get through.
-/

namespace ClusterAudit.CommandLine

/-- The variables that the program asks for, as far as they are set. -/
def readVariables : IO (List (String × String)) := do
  let names := ["NO_COLOR", "CLICOLOR_FORCE"] ++ Setting.all.map Setting.envName
  let values ← names.mapM fun name => do return (← IO.getEnv name).map fun value => (name, value)
  return values.filterMap id

/-- What an error of the system says about a file. -/
def fileFault : IO.Error → FileFault
  | .permissionDenied .. => .denied
  | .inappropriateType .. => .notDirectory
  | .illegalOperation .. => .isDirectory
  | _ => .notFound

def readBytes (path : String) : IO (Except FileFault Utf8.Bytes) := do
  try
    return .ok (← IO.FS.readBinFile path).toList
  catch error =>
    return .error (fileFault error)

/-- The files that an audit reads: the kubeconfig, and those that it names. -/
def readFiles (lookUp : String → Option String) (arguments : List String) :
    IO (List (String × Except FileFault Utf8.Bytes)) := do
  match read lookUp arguments with
  | .ok (.audit o) =>
    let path := o.config.kubeconfig
    let bytes ← readBytes path
    let named :=
      match bytes with
      | .ok bytes => ((Utf8.decode bytes).toOption.bind Kubeconfig.parse?).map Kubeconfig.files
      | .error _ => none
    let others ← (named.getD []).mapM fun file => do return (file, ← readBytes file)
    return (path, bytes) :: others
  | _ => return []

def readClock : IO Instant := do
  let now ← Std.Time.Timestamp.now
  return Instant.ofSeconds now.toSecondsSinceUnixEpoch.val.toNat

/-- What the program finds around it. -/
def surroundings (lookUp : String → Option String)
    (files : List (String × Except FileFault Utf8.Bytes)) (now : Instant) : Surroundings Unit :=
  let look (path : String) : Except FileFault Utf8.Bytes :=
    ((files.find? (·.1 == path)).map (·.2)).getD (.error .notFound)
  { lookUp
    text := fun path => do
      let bytes ← look path
      match Utf8.decode bytes with
      | .ok text => return text
      | .error _ => .error .notText
    bytes := fun path => (look path).toOption
    clusterNetwork := fun _ _ => return .failed "client error (Connect)"
    network := HypervisorApi.disconnected
    clock := ⟨now, now⟩ }

/-- Runs the program and prints what it leaves behind. -/
def start (arguments : List String) : IO UInt32 := do
  let set ← readVariables
  let lookUp (name : String) : Option String := (set.find? (·.1 == name)).map (·.2)
  let files ← readFiles lookUp arguments
  let world := surroundings lookUp files (← readClock)
  let (ending, _) := run world [] arguments ()
  IO.print ending.output
  IO.eprint ending.errors
  return ending.status.toUInt32

end ClusterAudit.CommandLine

/-- Runs the program and ends with its status. -/
def main (arguments : List String) : IO UInt32 := ClusterAudit.CommandLine.start arguments
