-- SUMMARY: The whole program: from its arguments to its output and its exit status.
import ClusterAudit.Cluster.Server
import ClusterAudit.CommandLine.Help
import ClusterAudit.Console.Page
import ClusterAudit.Hypervisor.Client
import ClusterAudit.Kubeconfig

/-!
# The program

The program reads its arguments, connects to the cluster of a kubeconfig, runs an
audit and tells it, as a page or as a report. A kubeconfig that leads nowhere
does not stop it: it then audits a cluster that cannot be reached. The exit
status of an audit is that of its verdict, however it is run and told.

What the world gives to a program is in its surroundings; nothing else decides
about what it does.
-/

namespace ClusterAudit.CommandLine

/-- What a program finds around it. -/
structure Surroundings (σ : Type) where
  /-- The values of the variables. -/
  lookUp : String → Option String
  /-- The text of a file. -/
  text : String → Except FileFault (List Char)
  /-- The bytes of a file that can be read. -/
  bytes : String → Option Utf8.Bytes
  /-- What becomes of a request to the control plane at an address. -/
  clusterNetwork : (address : String) → ApiNetwork σ
  /-- What becomes of a request to the hypervisor. -/
  network : HypervisorApi.Network σ
  clock : Clock

/-- What a program leaves behind. -/
structure Ending where
  output : String := ""
  errors : String := ""
  status : Nat := 0
deriving DecidableEq, Repr, Inhabited

/-! ## Audits -/

/-- The control plane of the cluster to be audited. -/
def Surroundings.controlPlane {σ : Type} (world : Surroundings σ) (config : Config) :
    ControlPlane σ :=
  let path := config.kubeconfig
  match Kubeconfig.address world.bytes path (world.text path) with
  | .error fault => (Cluster.unreachable fault.reason).controlPlane
  | .ok address =>
    { network := world.clusterNetwork address
      timeoutMilliseconds := config.queryTimeout * 1000 : ApiServer σ }.controlPlane

/-- The two sides of an audit. -/
def Surroundings.environment {σ : Type} (world : Surroundings σ) (config : Config) :
    Environment σ :=
  { cluster := world.controlPlane config
    hypervisor :=
      HypervisorApi.client world.network
        { login := config.loginTimeout * 1000, version := config.versionTimeout * 1000 } }

/-- How the options let an audit be run. -/
def Options.mode (o : Options) (schedule : Schedule) : Mode :=
  if o.parallel then .concurrent schedule else .sequential

def Options.run {σ : Type} (o : Options) (env : Environment σ) (schedule : Schedule)
    (clock : Clock) (state : σ) : Run σ :=
  (o.mode schedule).run env clock o.config.sections state

/-- The status of a program that is stopped by a calculation. -/
def stoppedStatus : Nat := 101

def Options.ending {σ : Type} (o : Options) (coloured : Bool) (run : Run σ) : Ending :=
  if o.json then { output := run.report.text ++ "\n", status := run.report.verdict.exitCode }
  else
    let page := Console.page o.config.kubeconfig run.events
    let output := Console.render coloured page.lines
    match page.fault with
    | some fault => { output, errors := fault.message ++ "\n", status := stoppedStatus }
    | none => { output, status := run.report.verdict.exitCode }

/-! ## Programs -/

/-- Whether help and faults are emphasised. -/
def isEmphasised (lookUp : String → Option String) : Bool :=
  (lookUp "NO_COLOR").all (· == "") && (lookUp "CLICOLOR_FORCE").any (· != "0")

def run {σ : Type} (world : Surroundings σ) (schedule : Schedule) (arguments : List String)
    (state : σ) : Ending × σ :=
  let emphasis := isEmphasised world.lookUp
  match read world.lookUp arguments with
  | .error fault => ({ errors := fault.text emphasis, status := 2 }, state)
  | .ok (.help long) => ({ output := help world.lookUp emphasis long }, state)
  | .ok .version => ({ output := versionText }, state)
  | .ok (.audit o) =>
    let finished := o.run (world.environment o.config) schedule world.clock state
    (o.ending (o.isColoured world.lookUp) finished, finished.state)

end ClusterAudit.CommandLine
