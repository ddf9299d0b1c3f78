-- SUMMARY: The options of the program, and the configuration that follows from them.
import ClusterAudit.Config

/-!
# Options

An option is a switch, which is given or not, or a setting, which has a value. A
setting that is not given on the command line is taken from the variable of its
name in the environment.
-/

namespace ClusterAudit.CommandLine

/-! ## Switches -/

/-- The options without a value. -/
inductive Switch
  | verbose
  | parallel
  | json
  | noColour
  | help
  | version
deriving DecidableEq, Repr, Inhabited

namespace Switch

/-- The long name, without its dashes. -/
def name : Switch → String
  | .verbose => "verbose"
  | .parallel => "parallel"
  | .json => "json"
  | .noColour => "no-color"
  | .help => "help"
  | .version => "version"

def letter? : Switch → Option Char
  | .verbose => some 'v'
  | .help => some 'h'
  | .version => some 'V'
  | _ => none

/-- The switch as messages show it. -/
def shown (s : Switch) : String := "--" ++ s.name

/-- The switches, in the order of the help. -/
def all : List Switch := [.verbose, .parallel, .json, .noColour, .help, .version]

def named? (name : String) : Option Switch := all.find? (·.name == name)

def lettered? (letter : Char) : Option Switch := all.find? (·.letter? == some letter)

end Switch

/-! ## Settings -/

/-- The options with a value. -/
inductive Setting
  | kubeconfig
  | controllerNs
  | providerNs
  | credentialsSecret
  | queryTimeout
deriving DecidableEq, Repr, Inhabited

namespace Setting

/-- The long name, without its dashes. -/
def name : Setting → String
  | .kubeconfig => "kubeconfig"
  | .controllerNs => "capi-namespace"
  | .providerNs => "provider-namespace"
  | .credentialsSecret => "credentials-secret"
  | .queryTimeout => "query-timeout"

/-- What stands for the value in messages. -/
def placeholder : Setting → String
  | .kubeconfig => "KUBECONFIG"
  | .controllerNs => "CAPI_NAMESPACE"
  | .providerNs => "PROVIDER_NAMESPACE"
  | .credentialsSecret => "CREDENTIALS_SECRET"
  | .queryTimeout => "QUERY_TIMEOUT"

/-- The variable that is asked when the setting is not given. -/
def envName : Setting → String
  | .kubeconfig => "KUBECONFIG"
  | setting => "INTEGRITY_" ++ setting.placeholder

/-- The setting as messages show it. -/
def shown (s : Setting) : String := "--" ++ s.name ++ " <" ++ s.placeholder ++ ">"

/-- The settings, in the order of the help. -/
def all : List Setting :=
  [.kubeconfig, .controllerNs, .providerNs, .credentialsSecret, .queryTimeout]

def named? (name : String) : Option Setting := all.find? (·.name == name)

end Setting

/-! ## Options -/

/-- The options of an audit. -/
structure Options where
  config : Config := {}
  verbose : Bool := false
  /-- Whether the sections run side by side. -/
  parallel : Bool := false
  /-- Whether the report is printed in place of the page. -/
  json : Bool := false
  noColour : Bool := false
deriving DecidableEq, Repr, Inhabited

namespace Options

def turnOn (o : Options) : Switch → Options
  | .verbose => { o with verbose := true }
  | .parallel => { o with parallel := true }
  | .json => { o with json := true }
  | .noColour => { o with noColour := true }
  | .help => o
  | .version => o

/-- Whether the page is coloured. The output is no terminal, so colours have to be asked for: by
`CLICOLOR_FORCE`, unless that is `0`. -/
def isColoured (o : Options) (lookUp : String → Option String) : Bool :=
  !o.noColour && !o.json
    && match lookUp "CLICOLOR_FORCE" with
      | some value => value != "0"
      | none => false

end Options

end ClusterAudit.CommandLine
