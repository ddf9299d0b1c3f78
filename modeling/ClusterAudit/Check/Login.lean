-- SUMMARY: The check of the hypervisor: credentials, login, version.
import ClusterAudit.Check.Probe
import ClusterAudit.Credentials

/-!
# Login

Three steps, each of which needs the one before: the credentials are loaded from
their secret, they yield a ticket, and the ticket lets the version be asked for.
The first step that fails is the last one, so a chain that got through `m` steps
reports `m + 1` outcomes, and three when all went well.
-/

namespace ClusterAudit.Check

/-- Where the credentials are kept. -/
structure SecretPlace where
  ns : String
  name : String
deriving DecidableEq, Repr, Inhabited

/-- The credentials that a query for their secret yields. -/
def credentialsOf (place : SecretPlace) (reply : Except QueryFault (Option Secret)) :
    Except Failure Credentials :=
  match reply with
  | .error fault => .error (.query fault)
  | .ok none => .error (.secretNotFound place.ns place.name)
  | .ok (some secret) => Credentials.ofSecret secret

/-- The outcome of loaded credentials, which tells all of them but the password. -/
def loadedOutcome (c : Credentials) : Outcome :=
  (Outcome.pass "Proxmox credentials loaded").withDetails
    ["Endpoint: " ++ c.endpoint, "User: " ++ c.username]

def versionOutcome (v : HypervisorVersion) : Outcome :=
  let line (label : String) (value : Option String) : List String :=
    (value.map (label ++ ·)).toList
  (Outcome.pass ("Proxmox VE version: " ++ v.version.getD "unknown")).withDetails
    (line "Release: " v.release ++ line "Repository id: " v.repoid)

def askVersion (endpoint : String) (ticket : Ticket) : Probe Outcome := do
  match ← Probe.hypervisor (.version endpoint ticket) with
  | .ok version => return versionOutcome version
  | .error failure => return .fail ("Cannot query Proxmox VE version: " ++ failure.message)

/-- The last two steps: logs in and asks for the version. -/
def logIn (c : Credentials) : Probe (List Outcome) := do
  match ← Probe.hypervisor (.authenticate c.endpoint c.username c.password) with
  | .error failure => return [.fail ("Proxmox API authentication failed: " ++ failure.message)]
  | .ok ticket =>
    return [.pass "Proxmox API authentication successful", ← askVersion c.endpoint ticket]

/-- Whether the hypervisor can be used with the credentials in a secret. -/
def hypervisor (place : SecretPlace) : Check :=
  ⟨"Proxmox API", do
    let reply ← Probe.cluster (.secret place.ns place.name)
    match credentialsOf place reply with
    | .error failure => return [.fail ("Cannot load Proxmox credentials: " ++ failure.message)]
    | .ok credentials => return loadedOutcome credentials :: (← logIn credentials)⟩

end ClusterAudit.Check
