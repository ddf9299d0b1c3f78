-- SUMMARY: The classified result of one step of a check.
import ClusterAudit.Json.Decode

/-!
# Outcomes

Every step of a check ends in an outcome: a status, a message and lines of
detail. In JSON the lines are left out when there are none.
-/

namespace ClusterAudit

open ClusterAudit.Json

/-- How a step ended. An `info` only tells something and is never counted. -/
inductive Status
  | pass
  | fail
  | warn
  | info
deriving DecidableEq, Repr, Inhabited

namespace Status

/-- The status as it is shown to people. -/
def label : Status → String
  | .pass => "PASS"
  | .fail => "FAIL"
  | .warn => "WARN"
  | .info => "INFO"

def name : Status → String
  | .pass => "pass"
  | .fail => "fail"
  | .warn => "warn"
  | .info => "info"

/-- Every status under its written name. -/
def named : List (String × Status) := [.pass, .fail, .warn, .info].map fun s => (s.name, s)

def ofJson : Json → Decoded Status := asVariant named

end Status

structure Outcome where
  status : Status
  message : String
  details : List String := []
deriving DecidableEq, Repr, Inhabited

namespace Outcome

def pass (message : String) : Outcome := { status := .pass, message }
def fail (message : String) : Outcome := { status := .fail, message }
def warn (message : String) : Outcome := { status := .warn, message }
def info (message : String) : Outcome := { status := .info, message }

/-- The outcome with these lines of detail and no others. -/
def withDetails (o : Outcome) (details : List String) : Outcome := { o with details }

/-- Whether the outcome counts towards the verdict. -/
def isCounted (o : Outcome) : Bool := o.status != .info

/-! ## JSON -/

/-- An outcome as a document; details are left out when there are none. -/
def toJson (o : Outcome) : Json :=
  .object <|
    [("status", .string o.status.name), ("message", .string o.message)]
      ++ if o.details.isEmpty then [] else [("details", .strings o.details)]

/-- What a message calls an array of an outcome's fields. -/
def asArray : String := "struct Outcome with 3 elements"

/-- How the members of an outcome are checked. -/
def fieldRules : List FieldRule :=
  [.of "status" Status.ofJson, .of "message" asString, .of "details" (asList asString)]

/-- Reads an outcome, from an object or from an array of its fields. -/
def ofJson : Json → Decoded Outcome
  | .object members => do
    checkMembers fieldRules members
    return {
      status := ← required members "status" Status.ofJson
      message := ← required members "message" asString
      details := ← optional members "details" [] (asList asString) }
  | .array items => do
    let status ← itemAt items 0 asArray Status.ofJson
    let message ← itemAt items 1 asArray asString
    let details ←
      match items[2]? with
      | some value => asList asString value
      | none => pure []
    checkLength items 3
    return { status, message, details }
  | other => .error (mismatch other "struct Outcome")

end Outcome

end ClusterAudit
