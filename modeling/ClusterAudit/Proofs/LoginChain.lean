-- SUMMARY: A login ends at its first failure, and asks only with what the step before has given.
import ClusterAudit.Check.Login
import ClusterAudit.Proofs.Probe

/-!
# The chain of a login

A login has three steps: a secret is read, the credentials in it yield a ticket, and
the ticket lets the version be asked for. `LoginCourse` lists the ways it may go. The
main statement, `login_is_chain`, says of every world which questions are put, in what
order and with what contents, and how many outcomes of which status come of them.
-/

namespace ClusterAudit

variable {σ : Type}

/-! ## Steps -/

namespace Exchange

/-- The credentials in the secret that an exchange brought, if they can be read. -/
def accepted? : Exchange → Option Credentials
  | .cluster (.secret _ _) (.ok (some secret)) => (Credentials.ofSecret secret).toOption
  | _ => none

/-- The ticket that an exchange brought, and the endpoint that gave it. -/
def granted? : Exchange → Option (String × Ticket)
  | .hypervisor (.authenticate endpoint _ _) (.ok ticket) => some (endpoint, ticket)
  | _ => none

/-- Whether an exchange made a step of a login succeed. -/
def succeeds (e : Exchange) : Bool :=
  match e with
  | .cluster _ _ => e.accepted?.isSome
  | .hypervisor _ _ => !e.isFailed

@[simp] theorem accepted?_hypervisor (q : HypervisorQuery) (reply : q.Reply) :
    (Exchange.hypervisor q reply).accepted? = none := rfl

@[simp] theorem granted?_cluster (q : ClusterQuery) (reply : q.Reply) :
    (Exchange.cluster q reply).granted? = none := rfl

@[simp] theorem granted?_version (endpoint : String) (ticket : Ticket)
    (reply : HypervisorQuery.Reply (.version endpoint ticket)) :
    (Exchange.hypervisor (.version endpoint ticket) reply).granted? = none := rfl

@[simp] theorem granted?_ok (endpoint username password : String) (ticket : Ticket) :
    (Exchange.hypervisor (.authenticate endpoint username password) (.ok ticket)).granted? =
      some (endpoint, ticket) := rfl

@[simp] theorem granted?_error (endpoint username password : String) (failure : Failure) :
    (Exchange.hypervisor (.authenticate endpoint username password) (.error failure)).granted? =
      none := rfl

@[simp] theorem succeeds_cluster (q : ClusterQuery) (reply : q.Reply) :
    (Exchange.cluster q reply).succeeds = (Exchange.cluster q reply).accepted?.isSome := rfl

@[simp] theorem succeeds_hypervisor (q : HypervisorQuery) (reply : q.Reply) :
    (Exchange.hypervisor q reply).succeeds = reply.toBool := Bool.not_not _

end Exchange

/-- How many steps of a login succeeded before the first that failed. -/
def stepsPassed (es : List Exchange) : Nat := (es.takeWhile Exchange.succeeds).length

@[simp] theorem stepsPassed_nil : stepsPassed [] = 0 := rfl

@[simp] theorem stepsPassed_cons (e : Exchange) (es : List Exchange) :
    stepsPassed (e :: es) = if e.succeeds then stepsPassed es + 1 else 0 := by
  cases h : e.succeeds <;> simp [stepsPassed, h]

namespace Check

@[simp] theorem details_loadedOutcome (c : Credentials) :
    (loadedOutcome c).details = ["Endpoint: " ++ c.endpoint, "User: " ++ c.username] := rfl

@[simp] theorem status_loadedOutcome (c : Credentials) : (loadedOutcome c).status = .pass := rfl

@[simp] theorem status_versionOutcome (v : HypervisorVersion) :
    (versionOutcome v).status = .pass := rfl

def loginQuestion (c : Credentials) : Question :=
  .hypervisor (.authenticate c.endpoint c.username c.password)

/-- The question for the version, at an endpoint that gave a ticket. -/
def versionQuestion (granted : String × Ticket) : Question :=
  .hypervisor (.version granted.1 granted.2)

/-! ## Courses -/

/-- How a login may go: it ends at the first step that fails, or after the third. -/
inductive LoginCourse (place : SecretPlace) : List Exchange → List Outcome → Prop
  | unread {reply : ClusterQuery.Reply (.secret place.ns place.name)} {failure : Failure} :
      credentialsOf place reply = .error failure →
      LoginCourse place [.cluster _ reply]
        [.fail ("Cannot load Proxmox credentials: " ++ failure.message)]
  | refused {reply : ClusterQuery.Reply (.secret place.ns place.name)} {c : Credentials}
      (failure : Failure) :
      credentialsOf place reply = .ok c →
      LoginCourse place
        [.cluster _ reply, .hypervisor (.authenticate c.endpoint c.username c.password)
          (.error failure)]
        [loadedOutcome c, .fail ("Proxmox API authentication failed: " ++ failure.message)]
  | unversioned {reply : ClusterQuery.Reply (.secret place.ns place.name)} {c : Credentials}
      (ticket : Ticket) (failure : Failure) :
      credentialsOf place reply = .ok c →
      LoginCourse place
        [.cluster _ reply, .hypervisor (.authenticate c.endpoint c.username c.password)
          (.ok ticket), .hypervisor (.version c.endpoint ticket) (.error failure)]
        [loadedOutcome c, .pass "Proxmox API authentication successful",
          .fail ("Cannot query Proxmox VE version: " ++ failure.message)]
  | complete {reply : ClusterQuery.Reply (.secret place.ns place.name)} {c : Credentials}
      (ticket : Ticket) (version : HypervisorVersion) :
      credentialsOf place reply = .ok c →
      LoginCourse place
        [.cluster _ reply, .hypervisor (.authenticate c.endpoint c.username c.password)
          (.ok ticket), .hypervisor (.version c.endpoint ticket) (.ok version)]
        [loadedOutcome c, .pass "Proxmox API authentication successful", versionOutcome version]

variable {place : SecretPlace} {es : List Exchange} {os : List Outcome}

/-- Whatever is answered, a login takes one of its courses. -/
theorem loginCourse_of_trace (h : (hypervisor place).probe.Trace es os) :
    LoginCourse place es os := by
  obtain ⟨reply, rest, rfl, hread⟩ := Probe.trace_ask_iff.mp h
  simp only [Probe.bind_def, Probe.done_bind] at hread
  cases hc : credentialsOf place reply with
  | error failure =>
    rw [hc] at hread
    obtain ⟨rfl, rfl⟩ := Probe.trace_done_iff.mp hread
    exact .unread hc
  | ok c =>
    rw [hc] at hread
    obtain ⟨ticket, rest, rfl, hlogin⟩ := Probe.trace_ask_iff.mp hread
    clear hread
    cases ticket with
    | error failure =>
      obtain ⟨rfl, rfl⟩ := Probe.trace_done_iff.mp hlogin
      exact .refused failure hc
    | ok ticket =>
      obtain ⟨version, rest, rfl, hversion⟩ := Probe.trace_ask_iff.mp hlogin
      clear hlogin
      cases version with
      | error failure =>
        obtain ⟨rfl, rfl⟩ := Probe.trace_done_iff.mp hversion
        exact .unversioned ticket failure hc
      | ok version =>
        obtain ⟨rfl, rfl⟩ := Probe.trace_done_iff.mp hversion
        exact .complete ticket version hc

/-! ## The chain -/

/-- What the exchanges of a login and its outcomes have to do with each other. -/
structure IsLoginChain (place : SecretPlace) (es : List Exchange) (os : List Outcome) : Prop where
  /-- One secret is asked for, then a ticket with the credentials in it, then the version with
  that ticket; nothing else is asked. -/
  questions_eq : es.map Exchange.question =
    .cluster (.secret place.ns place.name) :: (es.filterMap Exchange.accepted?).map loginQuestion
      ++ (es.filterMap Exchange.granted?).map versionQuestion
  accepted_le : (es.filterMap Exchange.accepted?).length ≤ 1
  granted_le : (es.filterMap Exchange.granted?).length ≤ 1
  /-- A ticket is granted by the endpoint in the credentials. -/
  granted_at : ∀ granted ∈ es.filterMap Exchange.granted?,
    ∃ c ∈ es.filterMap Exchange.accepted?, granted.1 = c.endpoint
  length_eq : os.length = min (stepsPassed es + 1) 3
  statuses_eq : os.map Outcome.status =
    List.replicate (stepsPassed es) .pass ++ if stepsPassed es < 3 then [.fail] else []
  /-- The first success tells the endpoint and the user, and nothing else. -/
  details_eq : ∀ c ∈ es.filterMap Exchange.accepted?,
    os.head?.map Outcome.details = some ["Endpoint: " ++ c.endpoint, "User: " ++ c.username]

/-- An exchange for the secret brings credentials exactly when they can be read. -/
theorem accepted?_secret (reply : ClusterQuery.Reply (.secret place.ns place.name)) :
    (Exchange.cluster (.secret place.ns place.name) reply).accepted? =
      (credentialsOf place reply).toOption := by
  match reply with
  | .error _ => rfl
  | .ok none => rfl
  | .ok (some _) => rfl

theorem accepted?_of_ok {reply : ClusterQuery.Reply (.secret place.ns place.name)}
    {c : Credentials} (h : credentialsOf place reply = .ok c) :
    (Exchange.cluster (.secret place.ns place.name) reply).accepted? = some c := by
  rw [accepted?_secret, h]
  rfl

theorem accepted?_of_error {reply : ClusterQuery.Reply (.secret place.ns place.name)}
    {failure : Failure} (h : credentialsOf place reply = .error failure) :
    (Exchange.cluster (.secret place.ns place.name) reply).accepted? = none := by
  rw [accepted?_secret, h]
  rfl

theorem LoginCourse.isLoginChain (h : LoginCourse place es os) : IsLoginChain place es os := by
  -- Each course is a literal list, on which every part of the chain is computed.
  cases h with
  | unread hread =>
    have haccepted := accepted?_of_error hread
    constructor <;> simp [List.filterMap_cons, haccepted, Outcome.fail]
  | refused failure hread =>
    have haccepted := accepted?_of_ok hread
    constructor <;>
      simp [List.filterMap_cons, haccepted, loginQuestion, Except.toBool, Outcome.fail]
  | unversioned ticket failure hread =>
    have haccepted := accepted?_of_ok hread
    constructor <;>
      simp [List.filterMap_cons, haccepted, loginQuestion, versionQuestion, Except.toBool,
        Outcome.pass, Outcome.fail, List.replicate_succ]
  | complete ticket version hread =>
    have haccepted := accepted?_of_ok hread
    constructor <;>
      simp [List.filterMap_cons, haccepted, loginQuestion, versionQuestion, Except.toBool,
        Outcome.pass, List.replicate_succ]

/-- In every world a login is a chain of at most three steps, each of which needs the one before:
one secret is asked for, the credentials in it are posted once, and the version is asked for once
with the ticket; there is a success for each step that passed, and one failure for the first that
did not. -/
theorem login_is_chain (place : SecretPlace) (env : Environment σ) (s : σ) :
    let ran := (hypervisor place).probe.run env s
    IsLoginChain place ran.exchanges ran.value :=
  (loginCourse_of_trace (Probe.trace_run env _ s)).isLoginChain

end Check

end ClusterAudit
