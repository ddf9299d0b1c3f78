-- SUMMARY: The state of pods: running, or in an error state, and the checks that count them.
import ClusterAudit.Check.Probe
import ClusterAudit.Text.Substring

/-!
# Workloads

Whether a pod runs, the one word in which its state is shown, and which of these
words are errors. Two kinds of check are built on them: a component is there if
one of its pods runs, and a scan over all pods counts those in an error state.
-/

namespace ClusterAudit

/-! ## The display status of a pod -/

/-- The reason that a state shows: that of waiting comes before that of having ended. -/
def ContainerState.reason? (s : ContainerState) : Option String :=
  (s.waiting.bind Waiting.reason).or (s.terminated.bind Terminated.reason)

/-- Why an init container fails, if it does: it has ended badly, or waits for anything but
its turn. -/
def ContainerState.initFailure? (s : ContainerState) : Option String :=
  match s.terminated with
  | some ended =>
    if ended.exitCode = 0 then none else some (ended.reason.getD s!"ExitCode:{ended.exitCode}")
  | none => (s.waiting.bind Waiting.reason).filter (· != "PodInitializing")

namespace PodStatus

/-- The failure of the first init container that fails. -/
def initFailure? (s : PodStatus) : Option String :=
  s.initContainers.findSome? fun c => c.state.bind ContainerState.initFailure?

/-- The reason of the first container that shows one. -/
def containerReason? (s : PodStatus) : Option String :=
  s.containers.findSome? fun c => c.state.bind ContainerState.reason?

/-- The word for the state of a pod: a failing init container comes first, then a container's
reason, then the pod's own reason, then its phase. -/
def display (s : PodStatus) : String :=
  match s.initFailure? with
  | some reason => "Init:" ++ reason
  | none => (((s.containerReason?).or s.reason).or s.phase).getD "Unknown"

end PodStatus

namespace Pod

def phase? (p : Pod) : Option String := p.status.bind PodStatus.phase

def isRunning (p : Pod) : Bool := p.phase? == some "Running"

/-- The word for the state of a pod. -/
def display (p : Pod) : String :=
  match p.status with
  | some status => status.display
  | none => "Pending"

def fullName (p : Pod) : String := p.metadata.shownNs ++ "/" ++ p.metadata.shownName

/-- The line of detail about a pod. -/
def row (p : Pod) : String := p.fullName ++ "  " ++ p.phase?.getD "Unknown"

end Pod

/-- How many pods run. -/
def runningCount (pods : List Pod) : Nat := pods.countP Pod.isRunning

/-! ## Error states -/

/-- The texts that make the word for a state an error. -/
def errorMarkers : List String := ["Error", "CrashLoopBackOff", "ImagePullBackOff", "Unknown"]

def isErrorState (display : String) : Bool := errorMarkers.any (Text.contains display)

def Pod.isBroken (p : Pod) : Bool := isErrorState p.display

namespace Check

/-- From so many broken pods on, the scan fails. -/
def brokenLimit : Nat := 10

/-- Passes if no pod is broken, warns of fewer than ten broken pods, and fails from ten on. -/
def judgeErrorStates (pods : List Pod) : Outcome :=
  let broken := pods.filter Pod.isBroken
  let count := broken.length
  let rows := (broken.take detailLimit).map fun p => p.fullName ++ ": " ++ p.display
  if count = 0 then .pass "No pods in error states"
  else if count < brokenLimit then (Outcome.warn s!"{count} pods in error states").withDetails rows
  else (Outcome.fail s!"{count} pods in error states").withDetails rows

/-- Whether any pod of the cluster is in an error state. -/
def errorStates : Check :=
  single "Pods in error states" (.pods none none) fun
    | .ok pods => judgeErrorStates pods
    | .error fault => .fail ("Cannot list pods: " ++ fault.message)

/-! ## Components -/

end Check

/-- Where the pods of a component are found. -/
structure PodTarget where
  ns : String
  selector : String
deriving DecidableEq, Repr, Inhabited

/-- A component that is there if one of its pods runs. -/
structure Component where
  name : String
  target : PodTarget
  /-- The status when no pod runs. -/
  whenAbsent : Status := .fail
  /-- The status when the pods cannot be listed. -/
  whenUnreachable : Status := .fail
deriving DecidableEq, Repr, Inhabited

namespace Component

/-- A component without which the platform does not work. -/
def required (name : String) (target : PodTarget) : Component := { name, target }

def optional (name : String) (target : PodTarget) : Component :=
  { name, target, whenAbsent := .warn }

/-- Passes if some pod runs; what it is if none does depends on the component. -/
def judge (c : Component) (pods : List Pod) : Outcome :=
  let running := runningCount pods
  if 0 < running then .pass (c.name ++ s!" running: {running} pod(s)")
  else { status := c.whenAbsent, message := c.name ++ " not running" }

def check (c : Component) : Check :=
  .single c.name (.pods (some c.target.ns) (some c.target.selector)) fun
    | .ok pods => c.judge pods
    | .error fault =>
      { status := c.whenUnreachable
        message := "Cannot check " ++ c.name ++ " pods: " ++ fault.message }

end Component

end ClusterAudit
