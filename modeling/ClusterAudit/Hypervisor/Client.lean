-- SUMMARY: A hypervisor that is asked over HTTP.
import ClusterAudit.Credentials
import ClusterAudit.Json.Shape
import ClusterAudit.Web.Form
import ClusterAudit.Web.Status
import ClusterAudit.Web.Target

/-!
# The hypervisor over HTTP

A login posts the user name and the password as a form and yields a ticket; the
version is then asked for with the ticket in two headers. An answer may send the
client on to another address; it then asks there, up to ten times. What the
network does with a request is a parameter, so that the client can be run over a
script of answers as well as over no network at all.
-/

namespace ClusterAudit

open ClusterAudit.Json

/-! ## Requests -/

structure HttpRequest where
  method : String
  url : String
  body : String := ""
  contentType : Option String := none
  cookie : Option String := none
  csrfToken : Option String := none
  /-- The address that sent the client here. -/
  referer : Option String := none
  userAgent : Option String := none
deriving DecidableEq, Repr, Inhabited

namespace HypervisorApi

def ticketPath : String := "/api2/json/access/ticket"

def versionPath : String := "/api2/json/version"

/-- How the client names itself. -/
def userAgent : String := "proxmox-integrity/0.1.0"

/-- The address of a path at an endpoint. -/
def apiUrl (endpoint path : String) : String :=
  String.ofList (Credentials.trimSlashes endpoint.toList) ++ path

/-- Whether a part of an address can be read as text once it is decoded. -/
def isDecodable (part : String) : Bool :=
  (Utf8.decode (Web.percentDecode part.toList)).toOption.isSome

/-- The address without user and password, which are never sent in it. -/
def withoutUser (url : Web.Url) : Web.Url :=
  match url.authority with
  | none => url
  | some a =>
    let hasPassword := a.password != "" && isDecodable a.password
    if isDecodable a.username && (a.username != "" || hasPassword) then
      { url with authority := some { a with username := "", password := "" } }
    else url

def isSendableHost (url : Web.Url) : Bool :=
  match url.host with
  | some host => !(host.text.toList.any (Web.isOneOf ['"', '`', '{', '}']))
  | none => false

/-- Whether an address is one that a request can be sent to. -/
def isSendable (url : Web.Url) : Bool :=
  Credentials.schemes.contains url.scheme && isSendableHost url && !Web.isTooLong url.text

/-- Whether a text can be the value of a header. -/
def isHeaderText (text : String) : Bool :=
  text.toList.all fun c => c == '\t' || !Web.isControl c

/-- The value of a header as it arrives: without blanks around it. -/
def headerText (text : String) : String :=
  let isEdge (c : Char) := c == ' ' || c == '\t'
  String.ofList (Text.dropEndWhile isEdge (text.toList.dropWhile isEdge))

/-- The address that a request goes to. Headers that cannot be sent are found after an address
without a host, but before one that cannot be sent to. -/
def requestUrl (text : String) (headers : List String) : Except HttpFault Web.Url :=
  match Web.Url.parse text with
  | .error _ => .error .unbuilt
  | .ok url =>
    if url.host.isNone then .error (.unbuiltFor url.text)
    else if !headers.all isHeaderText then .error .unbuilt
    else
      let url := withoutUser url
      if isSendable url then .ok url else .error (.unbuiltFor url.text)

/-- An address as it is sent, without its fragment. -/
def sentUrl (url : Web.Url) : String := { url with fragment := none : Web.Url }.text

/-! ## Answers -/

inductive BodyEnd
  | complete
  /-- The connection is closed too early. -/
  | broken
  /-- The rest never comes. -/
  | stalled
deriving DecidableEq, Repr

/-- What becomes of a request. -/
inductive Transmission
  /-- An answer. Its location, if it has one that can be requested, is told in full. -/
  | answered (status : Nat) (body : Utf8.Bytes) (ending : BodyEnd)
      (location : Option Web.Url := none)
  /-- The connection is closed, or never made. -/
  | dropped
  /-- No answer ever comes. -/
  | silent
deriving DecidableEq, Repr

def answerText (url : String) (timeout : Nat) : Transmission → Except QueryFault (List Char)
  | .silent => .error (.timeout (timeout / 1000))
  | .dropped => .error (.http (.unsent url))
  | .answered _ _ .stalled _ => .error (.timeout (timeout / 1000))
  | .answered _ _ .broken _ => .error (.http .brokenBody)
  | .answered status body .complete _ =>
    let text := Utf8.decodeReplacing body
    if Web.isSuccess status then .ok text
    else .error (.status status (String.ofList (Text.trim text)))

/-! ## Redirects -/

/-- Where an answer sends the client. -/
structure Redirect where
  location : Web.Url
  /-- Whether the request is repeated there; otherwise the address is only fetched. -/
  repeats : Bool
deriving DecidableEq, Repr

/-- So many times the client lets itself be sent on. -/
def redirectLimit : Nat := 10

/-- Where the client is sent, if it is. Neither does a status send it without a location, nor a
location without one of the statuses. -/
def Transmission.redirect? : Transmission → Option Redirect
  | .answered status _ _ (some location) =>
    if [301, 302, 303].contains status then some ⟨location, false⟩
    else if [307, 308].contains status then some ⟨location, true⟩
    else none
  | _ => none

/-- The port that an address names, or that its scheme uses. -/
def knownPort (url : Web.Url) : Option Nat := url.port.or (Web.defaultPort? url.scheme)

def isSameServer (a b : Web.Url) : Bool := a.host == b.host && knownPort a == knownPort b

/-- How the next address is told of the previous one, unless it is less protected. -/
def refererFor (previous next : Web.Url) : Option String :=
  if next.scheme = "http" ∧ previous.scheme = "https" then none
  else some (sentUrl (withoutUser previous))

/-- The request that is made where an answer to a request has sent the client. A cookie is not
shown to another server. -/
def sentOn (request : HttpRequest) (previous : Web.Url) (redirect : Redirect) : HttpRequest :=
  let next := withoutUser redirect.location
  let repeated :=
    { request with
      url := sentUrl next
      cookie := if isSameServer previous next then request.cookie else none
      referer := (refererFor previous next).or request.referer }
  if redirect.repeats then repeated
  else { repeated with method := "GET", body := "", contentType := none }

/-! ## Contents of answers -/

/-- An envelope around data of a shape. -/
def envelope (data : Shape) : Shape :=
  .closedRecord "struct Envelope" [("data", .inArrays, .nullable data)]

def ticketShape : Shape :=
  .closedRecord "struct TicketData"
    [("ticket", .always, .text), ("CSRFPreventionToken", .always, .text)]

def versionShape : Shape :=
  .closedRecord "struct PveVersion"
    [("version", .inArrays, .nullable .text), ("release", .inArrays, .nullable .text),
      ("repoid", .inArrays, .nullable .text)]

/-- The data in the envelope of a text, which must not be missing. -/
def readEnvelope (what : String) (data : Shape) (text : List Char) : Except Failure Json :=
  match (envelope data).parse (fun _ => []) text with
  | .error fault => .error (.malformedResponse (fault.messageIn text))
  | .ok value =>
    match fieldOf ["data"] "data" value with
    | none => .error (.malformedResponse (what ++ " response has no data"))
    | some .null => .error (.malformedResponse (what ++ " response has no data"))
    | some data => .ok data

def textField? (names : List String) (name : String) (value : Json) : Option String :=
  match fieldOf names name value with
  | some (.string s) => some s
  | _ => none

/-- The ticket that data of the right shape hold. -/
def ticketOf (value : Json) : Ticket :=
  let text := textField? ["ticket", "CSRFPreventionToken"]
  ⟨(text "ticket" value).getD "", (text "CSRFPreventionToken" value).getD ""⟩

/-- The version that data of the right shape hold. -/
def versionOf (value : Json) : HypervisorVersion :=
  let text := textField? ["version", "release", "repoid"]
  ⟨text "version" value, text "release" value, text "repoid" value⟩

/-! ## The client -/

/-- A network with a state: what becomes of each request. -/
abbrev Network (σ : Type) : Type := HttpRequest → StateM σ Transmission

/-- How long the two kinds of answers are waited for, in milliseconds. -/
structure Timeouts where
  login : Nat := 10000
  version : Nat := 5000
deriving DecidableEq, Repr, Inhabited

def loginRequest (url : Web.Url) (username password : String) : HttpRequest :=
  { method := "POST", url := sentUrl url
    body := Web.formEncode [("username", username), ("password", password)]
    contentType := some "application/x-www-form-urlencoded", userAgent := some userAgent }

def versionRequest (url : Web.Url) (ticket : Ticket) : HttpRequest :=
  { method := "GET", url := sentUrl url
    cookie := some (headerText ("PVEAuthCookie=" ++ ticket.ticket))
    csrfToken := some (headerText ticket.csrfToken), userAgent := some userAgent }

/-- Sends a request, and goes where it is sent, so many times at most. Gives what becomes of the
last request. -/
def follow {σ : Type} (network : Network σ) :
    Nat → Web.Url → HttpRequest → StateM σ (Except HttpFault Transmission)
  | 0, url, request => do
    let transmission ← network request
    match transmission.redirect? with
    | none => return .ok transmission
    | some _ => return .error (.redirected (sentUrl url))
  | left + 1, url, request => do
    let transmission ← network request
    match transmission.redirect? with
    | none => return .ok transmission
    | some redirect =>
      if Credentials.schemes.contains redirect.location.scheme then
        follow network left (withoutUser redirect.location) (sentOn request url redirect)
      else return .error (.unbuiltFor redirect.location.text)

/-- Sends a request and reads the data of the answer. -/
def exchange {σ : Type} (network : Network σ) (url : Web.Url) (request : HttpRequest)
    (timeout : Nat) (what : String) (data : Shape) : StateM σ (Except Failure Json) := do
  let result ← follow network redirectLimit url request
  return do
    let transmission ← result.mapError fun fault => .query (.http fault)
    let text ← (answerText url.text timeout transmission).mapError .query
    readEnvelope what data text

def authenticate {σ : Type} (network : Network σ) (timeouts : Timeouts)
    (endpoint username password : String) : StateM σ (Except Failure Ticket) :=
  match requestUrl (apiUrl endpoint ticketPath) [] with
  | .error fault => return .error (.query (.http fault))
  | .ok url => do
    let data ←
      exchange network url (loginRequest url username password) timeouts.login "ticket" ticketShape
    return data.map ticketOf

def version {σ : Type} (network : Network σ) (timeouts : Timeouts) (endpoint : String)
    (ticket : Ticket) : StateM σ (Except Failure HypervisorVersion) :=
  match requestUrl (apiUrl endpoint versionPath)
      ["PVEAuthCookie=" ++ ticket.ticket, ticket.csrfToken] with
  | .error fault => return .error (.query (.http fault))
  | .ok url => do
    let data ←
      exchange network url (versionRequest url ticket) timeouts.version "version" versionShape
    return data.map versionOf

/-- The hypervisor behind a network. -/
def client {σ : Type} (network : Network σ) (timeouts : Timeouts) : Hypervisor σ
  | .authenticate endpoint username password =>
    authenticate network timeouts endpoint username password
  | .version endpoint ticket => version network timeouts endpoint ticket

/-! ## Networks -/

/-- A script of what becomes of the requests, and the requests so far, last first. -/
structure Script where
  ahead : List Transmission
  sent : List HttpRequest := []
deriving DecidableEq, Repr, Inhabited

/-- What becomes of a request when the script has ended. -/
def afterScript : Transmission := .answered 500 (Utf8.encode "no response left".toList) .complete

/-- The network that follows a script. -/
def scripted : Network Script := fun request script =>
  match script.ahead with
  | [] => (afterScript, { script with sent := request :: script.sent })
  | next :: ahead => (next, ⟨ahead, request :: script.sent⟩)

/-- A network on which no connection is ever made. -/
def disconnected : Network Unit := fun _ => return .dropped

end HypervisorApi

/-- A hypervisor that always answers alike. -/
def Hypervisor.constant (login : Except Failure Ticket)
    (version : Except Failure HypervisorVersion) : Hypervisor Unit
  | .authenticate _ _ _ => return login
  | .version _ _ => return version

end ClusterAudit
