-- SUMMARY: The counts of a run and the verdict that follows from them.
import ClusterAudit.Outcome

/-!
# Tally and verdict

A tally counts the outcomes of a run by status, leaving out those that only
inform. The verdict depends on the failures and the warnings alone.
-/

namespace ClusterAudit

open ClusterAudit.Json

/-! ## Verdicts -/

/-- The judgement on a whole run. -/
inductive Verdict
  | healthy
  | degraded
  | critical
deriving DecidableEq, Repr, Inhabited

namespace Verdict

/-- So many warnings keep a run without failures from being healthy. -/
def warningLimit : Nat := 5

/-- So many failures make a run critical. -/
def failureLimit : Nat := 3

/-- The verdict on a run with so many failures and warnings. -/
def ofCounts (failed warned : Nat) : Verdict :=
  if failed = 0 ∧ warned < warningLimit then .healthy
  else if failed < failureLimit then .degraded
  else .critical

/-- The status with which the program ends. -/
def exitCode : Verdict → Nat
  | .healthy => 0
  | .degraded => 1
  | .critical => 2

/-- The verdict as it is shown to people. -/
def label : Verdict → String
  | .healthy => "HEALTHY"
  | .degraded => "DEGRADED"
  | .critical => "CRITICAL"

def name : Verdict → String
  | .healthy => "healthy"
  | .degraded => "degraded"
  | .critical => "critical"

/-- Every verdict under its written name. -/
def named : List (String × Verdict) := [.healthy, .degraded, .critical].map fun v => (v.name, v)

def toJson (v : Verdict) : Json := .string v.name

def ofJson : Json → Decoded Verdict := asVariant named

end Verdict

/-! ## Words -/

/-- What stops a calculation in words of 64 bits. -/
inductive Overflow
  | product
deriving DecidableEq, Repr, Inhabited

def Overflow.message : Overflow → String
  | .product => "attempt to multiply with overflow"

/-- The product of two words, which has to be a word. -/
def wordProduct (a b : Nat) : Except Overflow Nat :=
  if a * b < 2 ^ 64 then .ok (a * b) else .error .product

/-! ## Tallies -/

structure Tally where
  total : Nat := 0
  passed : Nat := 0
  failed : Nat := 0
  warned : Nat := 0
deriving DecidableEq, Repr, Inhabited

namespace Tally

def recordStatus (t : Tally) : Status → Tally
  | .pass => { t with total := t.total + 1, passed := t.passed + 1 }
  | .fail => { t with total := t.total + 1, failed := t.failed + 1 }
  | .warn => { t with total := t.total + 1, warned := t.warned + 1 }
  | .info => t

def record (t : Tally) (o : Outcome) : Tally := t.recordStatus o.status

/-- Counts outcomes in their order. -/
def recordAll (t : Tally) (os : List Outcome) : Tally := os.foldl record t

def ofOutcomes (os : List Outcome) : Tally := recordAll {} os

def verdict (t : Tally) : Verdict := .ofCounts t.failed t.warned

/-- The share of passed outcomes in percent, rounded down; none if nothing was counted. A
hundredfold of the passed outcomes is taken first. -/
def successRate (t : Tally) : Except Overflow (Option Nat) :=
  if 0 < t.total then do
    let hundredfold ← wordProduct t.passed 100
    return some (hundredfold / t.total)
  else .ok none

/-! ## JSON -/

def toJson (t : Tally) : Json :=
  .object [("total", .nat t.total), ("passed", .nat t.passed), ("failed", .nat t.failed),
    ("warned", .nat t.warned)]

/-- What a message calls an array of a tally's fields. -/
def asArray : String := "struct RunTally with 4 elements"

/-- How the members of a tally are checked. -/
def fieldRules : List FieldRule :=
  ["total", "passed", "failed", "warned"].map fun name => .of name asCount

/-- Reads a tally, from an object or from an array of its fields. -/
def ofJson : Json → Decoded Tally
  | .object members => do
    checkMembers fieldRules members
    return {
      total := ← required members "total" asCount
      passed := ← required members "passed" asCount
      failed := ← required members "failed" asCount
      warned := ← required members "warned" asCount }
  | .array items => do
    let total ← itemAt items 0 asArray asCount
    let passed ← itemAt items 1 asArray asCount
    let failed ← itemAt items 2 asArray asCount
    let warned ← itemAt items 3 asArray asCount
    checkLength items 4
    return { total, passed, failed, warned }
  | other => .error (mismatch other "struct RunTally")

end Tally

end ClusterAudit
