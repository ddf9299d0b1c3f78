-- SUMMARY: The report of a run, and its JSON text.
import ClusterAudit.Tally
import ClusterAudit.Time.Stamp
import ClusterAudit.Json.Printer

/-!
# Reports

The report of a run holds the outcomes of each section, the tally, the verdict
and the two times. Its JSON text has its fields in a fixed order and can be read
back.
-/

namespace ClusterAudit

open ClusterAudit.Json

/-! ## Times -/

namespace Instant

def toJson (t : Instant) : Json := .string t.stamp

def ofJson : Json → Decoded Instant
  | .string s =>
    match Stamp.parse s with
    | .ok t => .ok t
    | .error fault => .error (.malformed fault.message)
  | other => .error (mismatch other "an RFC 3339 formatted date and time string")

end Instant

/-! ## Sections -/

structure SectionReport where
  title : String
  outcomes : List Outcome
deriving DecidableEq, Repr, Inhabited

namespace SectionReport

def toJson (s : SectionReport) : Json :=
  .object [("title", .string s.title), ("outcomes", .array (s.outcomes.map Outcome.toJson))]

/-- What a message calls an array of a section's fields. -/
def asArray : String := "struct SectionReport with 2 elements"

/-- How the members of a section are checked. -/
def fieldRules : List FieldRule := [.of "title" asString, .of "outcomes" (asList Outcome.ofJson)]

/-- Reads a section, from an object or from an array of its fields. -/
def ofJson : Json → Decoded SectionReport
  | .object members => do
    checkMembers fieldRules members
    return {
      title := ← required members "title" asString
      outcomes := ← required members "outcomes" (asList Outcome.ofJson) }
  | .array items => do
    let title ← itemAt items 0 asArray asString
    let outcomes ← itemAt items 1 asArray (asList Outcome.ofJson)
    checkLength items 2
    return { title, outcomes }
  | other => .error (mismatch other "struct SectionReport")

end SectionReport

/-! ## Reports -/

/-- The report of a run. -/
structure Report where
  startedAt : Instant
  completedAt : Instant
  sections : List SectionReport
  tally : Tally
  verdict : Verdict
deriving DecidableEq, Repr, Inhabited

namespace Report

def outcomes (r : Report) : List Outcome := r.sections.flatMap SectionReport.outcomes

def outcomesWith (r : Report) (status : Status) : List Outcome :=
  r.outcomes.filter (·.status == status)

def toJson (r : Report) : Json :=
  .object [("started_at", r.startedAt.toJson), ("completed_at", r.completedAt.toJson),
    ("sections", .array (r.sections.map SectionReport.toJson)), ("tally", r.tally.toJson),
    ("verdict", r.verdict.toJson)]

def text (r : Report) : String := r.toJson.pretty

/-- What a message calls an array of a report's fields. -/
def asArray : String := "struct RunReport with 5 elements"

/-- How the members of a report are checked. -/
def fieldRules : List FieldRule :=
  [.of "started_at" Instant.ofJson, .of "completed_at" Instant.ofJson,
    .of "sections" (asList SectionReport.ofJson), .of "tally" Tally.ofJson,
    .of "verdict" Verdict.ofJson]

/-- Reads a report, from an object or from an array of its fields. -/
def ofJson : Json → Decoded Report
  | .object members => do
    checkMembers fieldRules members
    return {
      startedAt := ← required members "started_at" Instant.ofJson
      completedAt := ← required members "completed_at" Instant.ofJson
      sections := ← required members "sections" (asList SectionReport.ofJson)
      tally := ← required members "tally" Tally.ofJson
      verdict := ← required members "verdict" Verdict.ofJson }
  | .array items => do
    let startedAt ← itemAt items 0 asArray Instant.ofJson
    let completedAt ← itemAt items 1 asArray Instant.ofJson
    let sections ← itemAt items 2 asArray (asList SectionReport.ofJson)
    let tally ← itemAt items 3 asArray Tally.ofJson
    let verdict ← itemAt items 4 asArray Verdict.ofJson
    checkLength items 5
    return { startedAt, completedAt, sections, tally, verdict }
  | other => .error (mismatch other "struct RunReport")

end Report

end ClusterAudit
