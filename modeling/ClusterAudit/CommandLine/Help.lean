-- SUMMARY: The help of the program, at length and as a summary.
import ClusterAudit.CommandLine.Arguments

/-!
# Help

The help lists every option with what it does; a setting also tells its variable
with the value it has in the environment, and its value when it is not given.
The long help puts each of these on a line of its own.

With emphasis, headings and the names of options stand out on a terminal.
-/

namespace ClusterAudit.CommandLine

/-! ## Emphasis -/

/-- A text between the sequences that turn an emphasis on and off. -/
def emphasised (emphasis : Bool) (opening text : String) : String :=
  if emphasis then opening ++ text ++ "\x1b[0m" else text

/-- A heading is bold and underlined. -/
def headingText (emphasis : Bool) (text : String) : String :=
  emphasised emphasis "\x1b[1m\x1b[4m" text

/-- What is typed as it stands is bold. -/
def literalText (emphasis : Bool) (text : String) : String := emphasised emphasis "\x1b[1m" text

/-- The word before a fault is bold and red. -/
def faultText (emphasis : Bool) (text : String) : String :=
  emphasised emphasis "\x1b[1m\x1b[31m" text

/-! ## Entries -/

/-- What the help says about one option. -/
structure Entry where
  letter : Option Char := none
  name : String
  placeholder : Option String := none
  text : String
  /-- Remarks about where the value comes from. -/
  remarks : List String := []
deriving DecidableEq, Repr, Inhabited

def Switch.text (long : Bool) : Switch → String
  | .verbose => "Enable verbose logging"
  | .parallel => "Run sections concurrently (output order is unchanged)"
  | .json => "Print the run report as JSON instead of the console summary"
  | .noColour => "Disable coloured output"
  | .help =>
    if long then "Print help (see a summary with '-h')"
    else "Print help (see more with '--help')"
  | .version => "Print version"

def Setting.text : Setting → String
  | .kubeconfig => "Kubeconfig for the management cluster"
  | .controllerNs => "Namespace of the Cluster API controllers"
  | .providerNs => "Namespace of the Proxmox infrastructure provider"
  | .credentialsSecret => "Secret holding the Proxmox API credentials"
  | .queryTimeout => "Deadline for each control-plane query, in seconds"

/-- The value of a setting that has one when it is not given. -/
def Setting.preset? : Setting → Option String
  | .kubeconfig => some ({} : Config).kubeconfig
  | .queryTimeout => some (toString ({} : Config).queryTimeout)
  | _ => none

def Switch.entry (long : Bool) (s : Switch) : Entry :=
  { letter := s.letter?, name := s.name, text := s.text long }

def Setting.entry (lookUp : String → Option String) (s : Setting) : Entry :=
  let inherited := "[env: " ++ s.envName ++ "=" ++ (lookUp s.envName).getD "" ++ "]"
  let preset := s.preset?.map fun value => "[default: " ++ value ++ "]"
  { name := s.name, placeholder := some s.placeholder, text := s.text
    remarks := inherited :: preset.toList }

def entries (lookUp : String → Option String) (long : Bool) : List Entry :=
  [Switch.verbose.entry long] ++ Setting.all.map (Setting.entry lookUp)
    ++ [Switch.parallel, .json, .noColour, .help, .version].map (Switch.entry long)

namespace Entry

/-- The line with the names of an option. -/
def head (emphasis : Bool) (e : Entry) : String :=
  let letter :=
    match e.letter with
    | some c => "  " ++ literalText emphasis (String.ofList ['-', c]) ++ ", "
    | none => "      "
  let placeholder :=
    match e.placeholder with
    | some word => " <" ++ word ++ ">"
    | none => ""
  letter ++ literalText emphasis ("--" ++ e.name) ++ placeholder ++ "\n"

/-- The indented line. -/
def indented (line : String) : String := "          " ++ line ++ "\n"

/-- The lines about an option in the long help. -/
def long (emphasis : Bool) (e : Entry) : String :=
  let remarks :=
    if e.remarks.isEmpty then "" else indented "" ++ String.join (e.remarks.map indented)
  e.head emphasis ++ indented e.text ++ remarks

/-- The lines about an option in the summary. -/
def short (emphasis : Bool) (e : Entry) : String :=
  e.head emphasis ++ indented (String.intercalate " " (e.text :: e.remarks))

end Entry

/-! ## Texts -/

def programName : String := "proxmox-integrity"

def versionText : String := programName ++ " 0.1.0\n"

/-- What the program is for, at length. -/
def longPurpose : String :=
  "Check the health of a Proxmox VE integration managed through Cluster API.

Verifies the Kubernetes control plane, the CAPI controllers and the
Proxmox provider, required CRDs, network and storage stacks, and
connectivity to the Proxmox VE API. Nothing is ever modified.

Exit codes: 0 = healthy, 1 = degraded, 2 = critical."

def shortPurpose : String :=
  "Read-only integrity checker for Proxmox-backed Cluster API clusters"

def usage (emphasis : Bool) : String :=
  headingText emphasis "Usage:" ++ " " ++ literalText emphasis programName ++ " [OPTIONS]\n"

/-- The help. -/
def help (lookUp : String → Option String) (emphasis long : Bool) : String :=
  let purpose := if long then longPurpose else shortPurpose
  let options :=
    if long then String.intercalate "\n" ((entries lookUp true).map (Entry.long emphasis))
    else String.join ((entries lookUp false).map (Entry.short emphasis))
  purpose ++ "\n\n" ++ usage emphasis ++ "\n" ++ headingText emphasis "Options:" ++ "\n" ++ options

def ArgumentFault.text (emphasis : Bool) (fault : ArgumentFault) : String :=
  faultText emphasis "error:" ++ " " ++ fault.message ++ "\n\n" ++ usage emphasis
    ++ "\nFor more information, try '" ++ literalText emphasis "--help" ++ "'.\n"

end ClusterAudit.CommandLine
