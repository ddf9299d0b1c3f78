-- SUMMARY: Why a query, or what is made of its answer, may fail.
import ClusterAudit.Text.Quoted
import ClusterAudit.Text.Utf8
import ClusterAudit.Web.Target

/-!
# Failures

Everything that may go wrong between a check and the systems it asks. A failure
never leaves the check that met it: it becomes the message of an outcome, which
is why every failure has one fixed wording.
-/

namespace ClusterAudit

/-! ## The control plane -/

/-- The error object of the control plane. -/
structure ApiStatus where
  status : String
  message : String
  reason : String
  code : Nat
deriving DecidableEq, Repr, Inhabited

/-- The error object with its fields in words. -/
def ApiStatus.text (s : ApiStatus) : String :=
  s.message ++ ": " ++ s.reason ++ " (ErrorResponse \x7b status: " ++ Text.quoted s.status
    ++ ", message: " ++ Text.quoted s.message ++ ", reason: " ++ Text.quoted s.reason
    ++ s!", code: {s.code} \x7d)"

/-- Why an exchange with the control plane gave nothing. -/
inductive ApiFault
  /-- The control plane answered with an error object. -/
  | refused (answer : ApiStatus)
  /-- The answer is no document of the expected kind. -/
  | undecodable (text : String)
  | notUtf8 (fault : Utf8.Fault)
  /-- The request did not get through. -/
  | service (text : String)
  /-- An object was asked for by an empty name. -/
  | unnamed
  /-- Names of which no target of a request can be made. -/
  | unsendable (fault : Web.TargetFault)
deriving DecidableEq, Repr

/-- The wording of a refusal by the control plane. -/
def ApiFault.message : ApiFault → String
  | .refused answer => "ApiError: " ++ answer.text
  | .undecodable text => "Error deserializing response: " ++ text
  | .notUtf8 fault => "UTF-8 Error: " ++ fault.message
  | .service text => "ServiceError: " ++ text
  | .unnamed => "Failed to build request: failed to validate request: A non-empty name is required"
  | .unsendable fault => "Failed to build request: failed to build request: " ++ fault.message

/-! ## The hypervisor -/

/-- Why an exchange with the hypervisor gave nothing. -/
inductive HttpFault
  /-- A request that cannot be made. -/
  | unbuilt
  /-- A request that cannot be made to this address. -/
  | unbuiltFor (url : String)
  /-- A request to this address that did not get through. -/
  | unsent (url : String)
  /-- An answer from this address that sends the client on once too often. -/
  | redirected (url : String)
  /-- An answer whose body broke off. -/
  | brokenBody
deriving DecidableEq, Repr

/-- The wording of a failed request. -/
def HttpFault.message : HttpFault → String
  | .unbuilt => "builder error"
  | .unbuiltFor url => "builder error for url (" ++ url ++ ")"
  | .unsent url => "error sending request for url (" ++ url ++ ")"
  | .redirected url => "error following redirect for url (" ++ url ++ ")"
  | .brokenBody => "error decoding response body"

/-! ## Failures -/

inductive QueryFault
  /-- No answer within so many seconds. -/
  | timeout (seconds : Nat)
  | api (fault : ApiFault)
  | http (fault : HttpFault)
  /-- An answer with a status that says failure. -/
  | status (code : Nat) (message : String)
  /-- There is no connection to the cluster at all. -/
  | unavailable (reason : String)
deriving DecidableEq, Repr

/-- The wording of a query that the cluster did not answer. -/
def QueryFault.message : QueryFault → String
  | .timeout seconds => s!"query timed out after {seconds} seconds"
  | .api fault => "Kubernetes API error: " ++ fault.message
  | .http fault => "HTTP error: " ++ fault.message
  | .status code message => s!"API returned status {code}: " ++ message
  | .unavailable reason => "cluster unavailable: " ++ reason

/-- An object that lacks what a check reads. -/
structure ShapeFault where
  resource : String
  reason : String
deriving DecidableEq, Repr, Inhabited

/-- The wording of an object that lacks what is needed of it. -/
def ShapeFault.message (fault : ShapeFault) : String :=
  "unexpected shape for " ++ fault.resource ++ ": " ++ fault.reason

/-- Why a step of a check failed. -/
inductive Failure
  | query (fault : QueryFault)
  | secretNotFound (ns name : String)
  | missingField (field : String)
  | notUtf8 (field : String)
  | invalidEndpoint (endpoint reason : String)
  /-- An answer that cannot be understood. -/
  | malformedResponse (text : String)
  | shape (fault : ShapeFault)
deriving DecidableEq, Repr

def Failure.message : Failure → String
  | .query fault => fault.message
  | .secretNotFound ns name => "secret " ++ ns ++ "/" ++ name ++ " not found"
  | .missingField field => "secret field " ++ field ++ " is missing"
  | .notUtf8 field => "secret field " ++ field ++ " is not valid UTF-8"
  | .invalidEndpoint endpoint reason =>
    "invalid Proxmox endpoint '" ++ endpoint ++ "': " ++ reason
  | .malformedResponse text => "malformed response: " ++ text
  | .shape fault => fault.message

end ClusterAudit
