-- SUMMARY: A cluster whose control plane is asked over HTTP.
import ClusterAudit.Query
import ClusterAudit.Resource.Decode
import ClusterAudit.Web.Form
import ClusterAudit.Web.Status
import ClusterAudit.Web.Target

/-!
# The control plane over HTTP

Each query is one request. What the network does with it is a parameter, as for
the hypervisor. A list of a kind that the control plane does not know
is empty, and an object that it does not know is none: of a list the code of the
error object decides, of an object its reason. All other trouble is reported.

The error object is the body of an answer that says failure. A body that is no
error object is put into one.
-/

namespace ClusterAudit

open ClusterAudit.Json

/-! ## Targets -/

def listTarget (path : String) (selector : Option String) : String :=
  path ++ "?"
    ++ match selector with
      | some labels => "&" ++ Web.formEncode [("labelSelector", labels)]
      | none => ""

/-- The path of the pods of a namespace, or of all. -/
def podsPath : Option String → String
  | some ns => "/api/v1/namespaces/" ++ ns ++ "/pods"
  | none => "/api/v1/pods"

/-- The target of one object by its name, which must not be empty. -/
def objectTarget (path name : String) : Except ApiFault String :=
  if name = "" then .error .unnamed else .ok (path ++ "/" ++ name)

namespace ClusterQuery

/-- The target of a query as it is written. -/
def writtenTarget : ClusterQuery → Except ApiFault String
  | .version => .ok "/version"
  | .nodes => .ok (listTarget "/api/v1/nodes" none)
  | .namespaceNamed name => objectTarget "/api/v1/namespaces" name
  | .pods ns selector => .ok (listTarget (podsPath ns) selector)
  | .definitions =>
    .ok (listTarget "/apis/apiextensions.k8s.io/v1/customresourcedefinitions" none)
  | .customObjects kind =>
    .ok (listTarget ("/apis/" ++ kind.apiVersion ++ "/" ++ kind.plural) none)
  | .drivers => .ok (listTarget "/apis/storage.k8s.io/v1/csidrivers" none)
  | .storageClasses => .ok (listTarget "/apis/storage.k8s.io/v1/storageclasses" none)
  | .secret ns name => objectTarget ("/api/v1/namespaces/" ++ ns ++ "/secrets") name

/-- The target of a query as it is sent. -/
def target (q : ClusterQuery) : Except ApiFault String := do
  (Web.readTarget (← q.writtenTarget)).mapError .unsendable

end ClusterQuery

/-! ## Answers -/

/-- What becomes of a request. -/
inductive Delivery
  | answered (status : Nat) (body : Utf8.Bytes)
  /-- The request does not get through. -/
  | failed (reason : String)
  /-- No answer ever comes. -/
  | silent
deriving DecidableEq, Repr

def apiStatusShape : Shape :=
  .closedRecord "struct ErrorResponse"
    [("status", .always, .text), ("message", .never, .text), ("reason", .never, .text),
      ("code", .always, .integer "u16" 0 65535)]

/-- The error object that a value is. -/
def apiStatusOf (value : Json) : ApiStatus :=
  let field := fieldOf ["status", "message", "reason", "code"]
  let text (name : String) : String :=
    match field name value with
    | some (.string s) => s
    | _ => ""
  let code :=
    match field "code" value with
    | some (.number n) => (n.integer?.getD 0).toNat
    | _ => 0
  ⟨text "status", text "message", text "reason", code⟩

/-- The error object of an answer that says failure. -/
def apiStatus (status : Nat) (body : List Char) : ApiStatus :=
  match apiStatusShape.parse (fun _ => []) body with
  | .ok value => apiStatusOf value
  | .error _ =>
    ⟨Web.statusText status, Text.quoted (String.ofList body), "Failed to parse error data", status⟩

def readAnswer {α : Type} (document : Resource.Document α) (status : Nat) (body : Utf8.Bytes) :
    Except ApiFault α :=
  match Utf8.decode body with
  | .error fault => .error (.notUtf8 fault)
  | .ok text =>
    if Web.isFailure status then .error (.refused (apiStatus status text))
    else
      match document.read text with
      | .ok value => .ok value
      | .error fault => .error (.undecodable (fault.messageIn text))

/-- A list that is not known is empty. -/
def emptyIfUnknown {α : Type} : Except QueryFault (List α) → Except QueryFault (List α)
  | .error (.api (.refused answer)) =>
    if answer.code = 404 then .ok [] else .error (.api (.refused answer))
  | reply => reply

/-- An object that is not known is none. -/
def noneIfUnknown {α : Type} : Except QueryFault α → Except QueryFault (Option α)
  | .ok value => .ok (some value)
  | .error (.api (.refused answer)) =>
    if answer.reason = "NotFound" then .ok none else .error (.api (.refused answer))
  | .error fault => .error fault

/-! ## Servers -/

structure ApiRequest where
  method : String
  target : String
deriving DecidableEq, Repr, Inhabited

/-- A network with a state: what becomes of each request to the control plane. -/
abbrev ApiNetwork (σ : Type) : Type := ApiRequest → StateM σ Delivery

/-- A control plane behind a network. -/
structure ApiServer (σ : Type) where
  network : ApiNetwork σ
  /-- How long an answer is waited for. -/
  timeoutMilliseconds : Nat

/-- The document that is received, if one is. -/
def received {α : Type} (document : Resource.Document α) (timeout : Nat) :
    Delivery → Except QueryFault α
  | .silent => .error (.timeout (timeout / 1000))
  | .failed reason => .error (.api (.service reason))
  | .answered status body => (readAnswer document status body).mapError .api

namespace ApiServer

variable {σ α : Type}

def fetch (server : ApiServer σ) (document : Resource.Document α) (q : ClusterQuery) :
    StateM σ (Except QueryFault α) :=
  match q.target with
  | .error fault => return .error (.api fault)
  | .ok target => do
    let delivery ← server.network ⟨"GET", target⟩
    return received document server.timeoutMilliseconds delivery

def list (server : ApiServer σ) (document : Resource.Document α) (q : ClusterQuery) :
    StateM σ (Except QueryFault (List α)) := do
  return emptyIfUnknown (← server.fetch document.list q)

def get (server : ApiServer σ) (document : Resource.Document α) (q : ClusterQuery) :
    StateM σ (Except QueryFault (Option α)) := do
  return noneIfUnknown (← server.fetch document q)

def controlPlane (server : ApiServer σ) : ControlPlane σ
  | .version => server.fetch .version .version
  | .nodes => server.list .node .nodes
  | .namespaceNamed name => server.get .namespaceObject (.namespaceNamed name)
  | .pods ns selector => server.list .pod (.pods ns selector)
  | .definitions => server.list .definition .definitions
  | .customObjects kind => server.list .custom (.customObjects kind)
  | .drivers => server.list .driver .drivers
  | .storageClasses => server.list .storageClass .storageClasses
  | .secret ns name => server.get .secret (.secret ns name)

end ApiServer

end ClusterAudit
