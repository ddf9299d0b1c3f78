-- SUMMARY: Reading the arguments of the command line.
import ClusterAudit.CommandLine.Options

/-!
# Arguments

Arguments are read from left to right, and the first fault ends the reading. The
value of a setting may follow it after an equals sign or as the next argument;
in the second case it is looked at only when the next option comes, so that an
argument that is not known is told before a value that is not allowed.

An argument that begins with a dash is never a value. Two dashes end the
options, and nothing may follow them.
-/

namespace ClusterAudit.CommandLine

/-! ## Faults -/

inductive ArgumentFault
  | unexpected (argument : String)
  | missingValue (setting : Setting)
  | invalidValue (setting : Setting) (value reason : String)
  /-- A value for a switch. -/
  | needlessValue (switch : Switch) (value : String)
  /-- An option that is given again. -/
  | repeated (shown : String)
deriving DecidableEq, Repr

def ArgumentFault.message : ArgumentFault → String
  | .unexpected argument => "unexpected argument '" ++ argument ++ "' found"
  | .missingValue setting =>
    "a value is required for '" ++ setting.shown ++ "' but none was supplied"
  | .invalidValue setting value reason =>
    "invalid value '" ++ value ++ "' for '" ++ setting.shown ++ "': " ++ reason
  | .needlessValue switch value =>
    "unexpected value '" ++ value ++ "' for '" ++ switch.shown
      ++ "' found; no more were expected"
  | .repeated shown => "the argument '" ++ shown ++ "' cannot be used multiple times"

/-- What the arguments ask for. -/
inductive Request
  | audit (options : Options)
  /-- The help, at length or as a summary. -/
  | help (long : Bool)
  | version
deriving DecidableEq, Repr

/-! ## Values -/

/-- A number below this fits its place. -/
def countLimit : Nat := 2 ^ 64

/-- Reads on in a decimal number, up to the first character or digit that does not fit. -/
def readCount (value : Nat) : List Char → Except String Nat
  | [] => .ok value
  | c :: rest =>
    if !c.isDigit then .error "invalid digit found in string"
    else
      let longer := value * 10 + Text.digitValue c
      if longer < countLimit then readCount longer rest
      else .error "number too large to fit in target type"

/-- Reads a decimal number, which may begin with a plus sign. -/
def count : List Char → Except String Nat
  | [] => .error "cannot parse integer from empty string"
  | ['+'] => .error "invalid digit found in string"
  | '+' :: digits => readCount 0 digits
  | digits => readCount 0 digits

def Options.set (o : Options) (setting : Setting) (value : String) :
    Except ArgumentFault Options :=
  match setting with
  | .kubeconfig =>
    if value = "" then .error (.missingValue setting)
    else .ok { o with config := { o.config with kubeconfig := value } }
  | .controllerNs => .ok { o with config := { o.config with controllerNs := value } }
  | .providerNs => .ok { o with config := { o.config with providerNs := value } }
  | .credentialsSecret => .ok { o with config := { o.config with credentialsSecret := value } }
  | .queryTimeout =>
    match count value.toList with
    | .ok seconds => .ok { o with config := { o.config with queryTimeout := seconds } }
    | .error reason => .error (.invalidValue setting value reason)

/-! ## Reading -/

/-- A setting whose value is still to be looked at. -/
inductive Pending
  | nothing
  /-- The next argument may be the value. -/
  | awaiting (setting : Setting)
  | holding (setting : Setting) (value : String)
deriving DecidableEq, Repr

structure Reading where
  options : Options := {}
  switches : List Switch := []
  settings : List Setting := []
  pending : Pending := .nothing

namespace Reading

/-- Gives a setting its value, once. -/
def give (r : Reading) (setting : Setting) (value : String) : Except ArgumentFault Reading := do
  if r.settings.contains setting then .error (.repeated setting.shown)
  let options ← r.options.set setting value
  return { r with options, settings := setting :: r.settings }

/-- Looks at the value that was put off. -/
def settle (r : Reading) : Except ArgumentFault Reading :=
  match r.pending with
  | .nothing => .ok r
  | .awaiting setting => .error (.missingValue setting)
  | .holding setting value => { r with pending := .nothing }.give setting value

def turnOn (r : Reading) (switch : Switch) : Except ArgumentFault Reading := do
  if r.switches.contains switch then .error (.repeated switch.shown)
  return { r with options := r.options.turnOn switch, switches := switch :: r.switches }

/-- Takes the setting values that are missing from the environment. -/
def fill (r : Reading) (lookUp : String → Option String) : Except ArgumentFault Reading :=
  Setting.all.foldlM
    (fun r setting =>
      if r.settings.contains setting then .ok r
      else
        match lookUp setting.envName with
        | some value => r.give setting value
        | none => .ok r)
    r

end Reading

/-- The reading goes on, or the arguments ask for something that needs no more of them. -/
inductive Progress
  | going (reading : Reading)
  | asked (request : Request)

/-- Reads a switch. The letter of the help asks for its summary. -/
def readSwitch (r : Reading) (switch : Switch) (byLetter : Bool) :
    Except ArgumentFault Progress := do
  let r ← r.settle
  match switch with
  | .help => return .asked (.help (!byLetter))
  | .version => return .asked .version
  | _ => return .going (← r.turnOn switch)

/-- Reads the letters after a single dash. -/
def readLetters (r : Reading) : List Char → Except ArgumentFault Progress
  | [] => .ok (.going r)
  | c :: rest =>
    match Switch.lettered? c with
    | none => .error (.unexpected (String.ofList ['-', c]))
    | some switch => do
      match ← readSwitch r switch true with
      | .going r => readLetters r rest
      | asked => return asked

def readLong (r : Reading) (argument : List Char) : Except ArgumentFault Progress := do
  let nameChars := argument.takeWhile (· != '=')
  let name := String.ofList nameChars
  let value? :=
    if argument.contains '=' then some (String.ofList (argument.drop (nameChars.length + 1)))
    else none
  match Setting.named? name, Switch.named? name, value? with
  | some setting, _, some value => return .going (← (← r.settle).give setting value)
  | some setting, _, none => return .going { (← r.settle) with pending := .awaiting setting }
  | none, some switch, some value => .error (.needlessValue switch value)
  | none, some switch, none => readSwitch r switch false
  | none, none, _ => .error (.unexpected ("--" ++ name))

/-- Reads an argument without a dash in front. -/
def readPlain (r : Reading) (argument : String) : Except ArgumentFault Progress :=
  match r.pending with
  | .awaiting setting => .ok (.going { r with pending := .holding setting argument })
  | _ => .error (.unexpected argument)

def readArguments (lookUp : String → Option String) (r : Reading) :
    List String → Except ArgumentFault Request
  | [] => do return .audit (← (← r.settle).fill lookUp).options
  | argument :: rest => do
    match argument.toList with
    | ['-', '-'] =>
      match rest with
      | [] => return .audit (← (← r.settle).fill lookUp).options
      | next :: _ => .error (.unexpected next)
    | '-' :: '-' :: long =>
      match ← readLong r long with
      | .going r => readArguments lookUp r rest
      | .asked request => return request
    | '-' :: c :: letters =>
      match ← readLetters r (c :: letters) with
      | .going r => readArguments lookUp r rest
      | .asked request => return request
    | _ =>
      match ← readPlain r argument with
      | .going r => readArguments lookUp r rest
      | .asked request => return request

/-- What the arguments ask for, in an environment that gives variables their values. -/
def read (lookUp : String → Option String) (arguments : List String) :
    Except ArgumentFault Request :=
  readArguments lookUp {} arguments

end ClusterAudit.CommandLine
