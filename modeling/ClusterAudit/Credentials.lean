-- SUMMARY: The credentials for the hypervisor, as a secret holds them.
import ClusterAudit.Query
import ClusterAudit.Text.Blank
import ClusterAudit.Web.Url

/-!
# Credentials

A secret holds an endpoint, a user name and a password. Blanks around the
endpoint and the user name are dropped, since a line break often follows them;
the password is taken as it is. The endpoint has to be an address of the web.
-/

namespace ClusterAudit

structure Credentials where
  endpoint : String
  username : String
  password : String
deriving DecidableEq, Repr, Inhabited

namespace Credentials

/-- The entry of the secret that holds the address of the hypervisor. -/
def endpointKey : String := "PROXMOX_ENDPOINT"

/-- The entry of the secret that holds the user. -/
def userKey : String := "PROXMOX_USER"

/-- The entry of the secret that holds the password. -/
def passwordKey : String := "PROXMOX_PASSWORD"

/-- The credentials in a log, where the password is not shown. -/
def shown (c : Credentials) : String :=
  "ProxmoxCredentials \x7b endpoint: " ++ Text.quoted c.endpoint ++ ", username: "
    ++ Text.quoted c.username ++ ", password: \"<redacted>\" \x7d"

/-- The text of a field, which must hold more than blanks. -/
def field (data : List (String × Utf8.Bytes)) (key : String) : Except Failure (List Char) :=
  match data.find? (·.1 == key) with
  | none => .error (.missingField key)
  | some (_, bytes) =>
    match Utf8.decode bytes with
    | .error _ => .error (.notUtf8 key)
    | .ok text => if Text.isBlankText text then .error (.missingField key) else .ok text

/-- A text without the slashes at its end. -/
def trimSlashes (cs : List Char) : List Char := Text.dropEndWhile (· == '/') cs

def schemes : List String := ["http", "https"]

/-- Why an endpoint is no address of the web, if it is none. -/
def endpointFault? (endpoint : String) : Option String :=
  match Web.Url.parse endpoint with
  | .error fault => some fault.message
  | .ok url =>
    if !schemes.contains url.scheme then some ("unsupported scheme " ++ url.scheme)
    else if url.host.isNone then some "missing host"
    else none

/-- An endpoint that is an address of the web, without the slashes at its end. -/
def checkEndpoint (endpoint : List Char) : Except Failure String :=
  match endpointFault? (String.ofList endpoint) with
  | some reason => .error (.invalidEndpoint (String.ofList endpoint) reason)
  | none => .ok (String.ofList (trimSlashes endpoint))

def ofData (data : List (String × Utf8.Bytes)) : Except Failure Credentials := do
  let endpoint ← field data endpointKey
  let username ← field data userKey
  let password ← field data passwordKey
  let endpoint ← checkEndpoint (Text.trim endpoint)
  return ⟨endpoint, String.ofList (Text.trim username), String.ofList password⟩

def ofSecret (secret : Secret) : Except Failure Credentials := ofData secret.data

end Credentials

end ClusterAudit
