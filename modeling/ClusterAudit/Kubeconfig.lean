-- SUMMARY: Configurations that tell how to reach a cluster, and whether they can be used.
import ClusterAudit.Text.Base64
import ClusterAudit.Text.Quoted
import ClusterAudit.Web.Uri
import ClusterAudit.Yaml.Value

/-!
# Kubeconfigs

A kubeconfig names clusters, users and contexts; the current context picks one
of each. The file may hold several documents, of which the first to name
something wins.

A kubeconfig may fail in three ways, looked for one after the other: the file
cannot be read as one, it leads to no server, or the way to the server is none
that can be taken. There is no support for proxies, for certificates of clients,
nor for programs that fetch a token.
-/

namespace ClusterAudit

open ClusterAudit.Yaml

inductive FileFault
  | notFound
  | denied
  | notDirectory
  | isDirectory
  | notText
deriving DecidableEq, Repr, Inhabited

def FileFault.message : FileFault → String
  | .notFound => "No such file or directory (os error 2)"
  | .denied => "Permission denied (os error 13)"
  | .notDirectory => "Not a directory (os error 20)"
  | .isDirectory => "Is a directory (os error 21)"
  | .notText => "stream did not contain valid UTF-8"

namespace Kubeconfig

/-! ## Entries -/

/-- How a cluster is reached. -/
structure Server where
  address : Option String := none
  /-- The certificates of the authority, in a file or as data. -/
  authorityFile : Option String := none
  authorityData : Option String := none
  proxy : Option String := none
deriving DecidableEq, Repr, Inhabited

/-- Something that is kept in a file or as data. -/
structure Stored where
  file : Option String := none
  data : Option String := none
deriving DecidableEq, Repr, Inhabited

/-- How a user is known to a cluster. -/
structure User where
  username : Option String := none
  password : Option String := none
  token : Option String := none
  tokenFile : Option String := none
  certificate : Stored := {}
  key : Stored := {}
  /-- The user and the groups in whose name requests are made. -/
  actsAs : List String := []
  /-- Whether a token is fetched by a provider or by a program. -/
  provided : Bool := false
  executed : Bool := false
deriving DecidableEq, Repr, Inhabited

/-- A cluster and a user. -/
structure Context where
  cluster : String
  user : Option String := none
deriving DecidableEq, Repr, Inhabited

/-- An entry under its name, which may be empty. -/
structure Entry (α : Type) where
  name : String
  content : Option α
deriving Repr

end Kubeconfig

/-- A kubeconfig, as far as it tells how to reach a cluster. -/
structure Kubeconfig where
  kind : Option String := none
  apiVersion : Option String := none
  currentContext : Option String := none
  clusters : List (Kubeconfig.Entry Kubeconfig.Server) := []
  users : List (Kubeconfig.Entry Kubeconfig.User) := []
  contexts : List (Kubeconfig.Entry Kubeconfig.Context) := []
deriving Repr

namespace Kubeconfig

/-! ## Decoding -/

/-- The members of a record; null is a record without members. -/
def members? : Yaml.Value → Option (List (String × Yaml.Value))
  | .null => some []
  | .map members =>
    members.mapM fun
      | (.text name, value) => some (name, value)
      | _ => none
  | _ => none

def text? : Yaml.Value → Option String
  | .text s => some s
  | _ => none

/-- A value as a truth value. -/
def flag? : Yaml.Value → Option Bool
  | .bool b => some b
  | _ => none

/-- A list of things that can all be decoded; null is the empty list. -/
def list? {α : Type} (item : Yaml.Value → Option α) : Yaml.Value → Option (List α)
  | .null => some []
  | .list items => items.mapM item
  | _ => none

/-- A record with texts under any names. -/
def texts? (value : Yaml.Value) : Option (List String) := do
  (← members? value).mapM fun member => text? member.2

def required {α : Type} (members : List (String × Yaml.Value)) (name : String)
    (decode : Yaml.Value → Option α) : Option α :=
  match members.find? (·.1 == name) with
  | some member => decode member.2
  | none => none

/-- A member that may be missing or null. -/
def optional {α : Type} (members : List (String × Yaml.Value)) (name : String)
    (decode : Yaml.Value → Option α) : Option (Option α) :=
  match members.find? (·.1 == name) with
  | none => some none
  | some (_, .null) => some none
  | some (_, value) => (decode value).map some

mutual

/-- Whether every key in a value is a text. -/
def isPlainData : Yaml.Value → Bool
  | .list items => arePlainData items
  | .map members => arePlainMembers members
  | _ => true

/-- Whether every key in some values is a text. -/
def arePlainData : List Yaml.Value → Bool
  | [] => true
  | value :: rest => isPlainData value && arePlainData rest

/-- Whether every key in some members is a text. -/
def arePlainMembers : List (Yaml.Value × Yaml.Value) → Bool
  | [] => true
  | (.text _, value) :: rest => isPlainData value && arePlainMembers rest
  | _ => false

end

/-- An extension, of which only the form is looked at. -/
def extension? (value : Yaml.Value) : Option Unit := do
  let members ← members? value
  let _ ← required members "name" text?
  required members "extension" fun value => if isPlainData value then some () else none

/-- The extensions in a record. -/
def extensions? (members : List (String × Yaml.Value)) : Option Unit :=
  (optional members "extensions" (list? extension?)).map fun _ => ()

def server? (value : Yaml.Value) : Option Server := do
  let members ← members? value
  let address ← optional members "server" text?
  let _ ← optional members "insecure-skip-tls-verify" flag?
  let authorityFile ← optional members "certificate-authority" text?
  let authorityData ← optional members "certificate-authority-data" text?
  let proxy ← optional members "proxy-url" text?
  let _ ← optional members "disable-compression" flag?
  let _ ← optional members "tls-server-name" text?
  extensions? members
  return { address, authorityFile, authorityData, proxy }

/-- A provider of tokens, of which only the form is looked at. -/
def provider? (value : Yaml.Value) : Option Unit := do
  let members ← members? value
  let _ ← required members "name" text?
  match members.find? (·.1 == "config") with
  | some (_, config) => (texts? config).map fun _ => ()
  | none => some ()

/-- Whether a text tells when a program may talk to people. -/
def mode? (value : Yaml.Value) : Option Unit := do
  let mode ← text? value
  if ["Never", "IfAvailable", "Always"].contains mode then some () else none

/-- A program that fetches a token, of which only the form is looked at. -/
def program? (value : Yaml.Value) : Option Unit := do
  let members ← members? value
  let _ ← optional members "apiVersion" text?
  let _ ← optional members "command" text?
  let _ ← optional members "args" (list? text?)
  let _ ← optional members "env" (list? texts?)
  let _ ← optional members "interactiveMode" mode?
  match members.find? (·.1 == "provideClusterInfo") with
  | some (_, value) => (flag? value).map fun _ => ()
  | none => some ()

def user? (value : Yaml.Value) : Option User := do
  let members ← members? value
  let text (name : String) := optional members name text?
  let actsAs ← text "as"
  let groups ← optional members "as-groups" (list? text?)
  let provider ← optional members "auth-provider" provider?
  let program ← optional members "exec" program?
  return {
    username := ← text "username"
    password := ← text "password"
    token := ← text "token"
    tokenFile := ← text "tokenFile"
    certificate := ⟨← text "client-certificate", ← text "client-certificate-data"⟩
    key := ⟨← text "client-key", ← text "client-key-data"⟩
    actsAs := actsAs.toList ++ groups.getD []
    provided := provider.isSome
    executed := program.isSome }

def context? (value : Yaml.Value) : Option Context := do
  let members ← members? value
  let cluster ← required members "cluster" text?
  let user ← optional members "user" text?
  let _ ← optional members "namespace" text?
  extensions? members
  return { cluster, user }

/-- An entry whose content stands under a key. -/
def named? {α : Type} (key : String) (decode : Yaml.Value → Option α) (value : Yaml.Value) :
    Option (Entry α) := do
  let members ← members? value
  return ⟨← required members "name" text?, ← optional members key decode⟩

def entries? {α : Type} (members : List (String × Yaml.Value)) (name key : String)
    (decode : Yaml.Value → Option α) : Option (List (Entry α)) := do
  return (← optional members name (list? (named? key decode))).getD []

/-- What users prefer, of which only the form is looked at. -/
def preferences? (value : Yaml.Value) : Option Unit := do
  let members ← members? value
  let _ ← optional members "colors" flag?
  extensions? members

def ofValue? (value : Yaml.Value) : Option Kubeconfig := do
  let members ← members? value
  let _ ← optional members "preferences" preferences?
  extensions? members
  return {
    kind := ← optional members "kind" text?
    apiVersion := ← optional members "apiVersion" text?
    currentContext := ← optional members "current-context" text?
    clusters := ← entries? members "clusters" "cluster" server?
    users := ← entries? members "users" "user" user?
    contexts := ← entries? members "contexts" "context" context? }

/-! ## Several documents -/

/-- Whether two values that may be missing do not contradict each other. -/
def agrees (a b : Option String) : Bool :=
  match a, b with
  | some x, some y => x == y
  | _, _ => true

/-- Entries, and behind them those of others whose names are new. -/
def mergeEntries {α : Type} (entries others : List (Entry α)) : List (Entry α) :=
  entries ++ others.filter fun other => !(entries.any (·.name == other.name))

/-- Two kubeconfigs in one, if they are of one kind; what the first tells stays. -/
def merge? (a b : Kubeconfig) : Option Kubeconfig :=
  if agrees a.kind b.kind && agrees a.apiVersion b.apiVersion then
    some
      { kind := a.kind.or b.kind, apiVersion := a.apiVersion.or b.apiVersion
        currentContext := a.currentContext.or b.currentContext
        clusters := mergeEntries a.clusters b.clusters
        users := mergeEntries a.users b.users
        contexts := mergeEntries a.contexts b.contexts }
  else none

/-- The kubeconfig in a text, which may begin with a byte order mark. -/
def parse? (text : List Char) : Option Kubeconfig := do
  let text :=
    match text with
    | '\ufeff' :: rest => rest
    | _ => text
  match ← (← documents? text).mapM ofValue? with
  | [] => return {}
  | first :: rest => rest.foldlM merge? first

/-! ## Use -/

/-- The files that a kubeconfig names. -/
def files (k : Kubeconfig) : List String :=
  let ofServer (s : Server) : List String := s.authorityFile.toList
  let ofUser (u : User) : List String :=
    u.tokenFile.toList ++ u.certificate.file.toList ++ u.key.file.toList
  (k.clusters.filterMap Entry.content).flatMap ofServer
    ++ (k.users.filterMap Entry.content).flatMap ofUser

/-- The content of the entry with a name. -/
def find? {α : Type} (entries : List (Entry α)) (name : String) : Option α :=
  (entries.find? (·.name == name)).bind Entry.content

/-- The server and the user of the current context. An unknown user is anybody. -/
def current? (k : Kubeconfig) : Option (Server × User) := do
  let context ← find? k.contexts (← k.currentContext)
  let server ← find? k.clusters context.cluster
  return (server, (context.user.bind (find? k.users)).getD {})

/-- The bytes in data or, without data, in a file. -/
def stored? (files : String → Option Utf8.Bytes) (file data : Option String) :
    Option Utf8.Bytes :=
  match data with
  | some data => (Base64.decode (Utf8.encode data.toList)).toOption
  | none => file.bind files

/-- Whether a server has an address, and certificates and a proxy that can be read if it names
any. -/
def isAddressed (files : String → Option Utf8.Bytes) (s : Server) : Bool :=
  (s.address.any Web.isServerAddress)
    && ((s.authorityFile.isNone && s.authorityData.isNone)
      || (stored? files s.authorityFile s.authorityData).isSome)
    && s.proxy.all fun proxy => proxy == "" || Web.isServerAddress proxy

/-- Whether a text can stand in a header that has to be plain. -/
def isHeaderText (text : String) : Bool :=
  text.toList.all fun c => c == '\t' || (0x20 ≤ c.toNat && c.toNat < 0x7f)

/-- Whether what makes a user known can be had: a password or a token that is written down, a
file that can be read, or nothing at all. -/
def canIdentify (files : String → Option Utf8.Bytes) (u : User) : Bool :=
  if u.provided then false
  else if (u.username.isSome && u.password.isSome) || u.token.isSome then true
  else
    match u.tokenFile with
    | some file => (files file).isSome
    | none => !u.executed

/-- Whether a user brings a certificate with its key. -/
def hasIdentity (files : String → Option Utf8.Bytes) (u : User) : Bool :=
  let has (s : Stored) : Bool := (stored? files s.file s.data).isSome
  has u.certificate && has u.key

/-- Whether requests can be made to a server as a user. -/
def isUsable (files : String → Option Utf8.Bytes) (s : Server) (u : User) : Bool :=
  s.proxy.all (· == "") && !hasIdentity files u && canIdentify files u && u.actsAs.all isHeaderText

/-! ## Connections -/

/-- Why a kubeconfig leads to no cluster. -/
inductive Fault
  | unreadable (path : String) (cause : FileFault)
  | malformed (path : String)
  /-- There is no server with an address. -/
  | incomplete
  | unusable
deriving DecidableEq, Repr

namespace Fault

def message : Fault → String
  | .unreadable path _ => "Failed to read kubeconfig from " ++ path
  | .malformed path => "Failed to read kubeconfig from " ++ path
  | .incomplete => "Failed to create Kubernetes config from kubeconfig"
  | .unusable => "Failed to create Kubernetes client"

/-- The wording of a fault with its cause, as far as one is known. -/
def reason (fault : Fault) : String :=
  match fault with
  | .unreadable path cause =>
    fault.message ++ ": failed to read kubeconfig from '" ++ Text.quoted path ++ "': "
      ++ cause.message ++ ": " ++ cause.message
  | _ => fault.message

end Fault

/-- The address of the cluster that the text of a kubeconfig leads to. -/
def address (files : String → Option Utf8.Bytes) (path : String)
    (text : Except FileFault (List Char)) : Except Fault String :=
  match text with
  | .error cause => .error (.unreadable path cause)
  | .ok text =>
    match parse? text with
    | none => .error (.malformed path)
    | some k =>
      match k.current? with
      | none => .error .incomplete
      | some (server, user) =>
        if !isAddressed files server then .error .incomplete
        else if !isUsable files server user then .error .unusable
        else .ok (server.address.getD "")

end Kubeconfig

end ClusterAudit
