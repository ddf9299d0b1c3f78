-- SUMMARY: JSON values.
import ClusterAudit.Number.Binary64

/-!
# JSON values

Values as they are exchanged with servers and printed in reports. An integer
that fits 64 bits is kept exactly; every other number is a binary64 number.
-/

namespace ClusterAudit

inductive JsonNumber
  /-- An integer from `0` below `2 ^ 64`. -/
  | natural (n : Nat)
  /-- The integer `-n`, with `0 < n ≤ 2 ^ 63`. -/
  | negative (n : Nat)
  /-- A number written with a fraction, an exponent or too many digits. -/
  | binary (x : Binary64)
deriving DecidableEq, Repr

/-- The integer that a number is, if it is kept exactly. -/
def JsonNumber.integer? : JsonNumber → Option Int
  | .natural n => some n
  | .negative n => some (-n)
  | .binary _ => none

/-- A JSON value. The members of an object keep their order. -/
inductive Json
  | null
  | bool (b : Bool)
  | number (n : JsonNumber)
  | string (s : String)
  | array (items : List Json)
  | object (members : List (String × Json))
deriving Repr

instance : Inhabited Json := ⟨.null⟩

namespace Json

/-- A count or another natural number. -/
def nat (n : Nat) : Json := .number (.natural n)

/-- An array of strings. -/
def strings (texts : List String) : Json := .array (texts.map .string)

/-- The member called `name`, if the value is an object that has it. -/
def member? (name : String) : Json → Option Json
  | .object members => (members.find? (·.1 == name)).map (·.2)
  | _ => none

/-- Puts a member into members sorted by name, replacing one of the same name. -/
def insertMember (name : String) (value : Json) : List (String × Json) → List (String × Json)
  | [] => [(name, value)]
  | (other, old) :: rest =>
    if name = other then (name, value) :: rest
    else if name < other then (name, value) :: (other, old) :: rest
    else (other, old) :: insertMember name value rest

/-- The members sorted by name; of two with one name the later stays. -/
def sortMembers (members : List (String × Json)) : List (String × Json) :=
  members.foldl (fun sorted (name, value) => insertMember name value sorted) []

mutual

/-- The value with the members of every object sorted by name. -/
def sorted : Json → Json
  | .array items => .array (sortedItems items)
  | .object members => .object (sortMembers (sortedMembers members))
  | other => other

def sortedItems : List Json → List Json
  | [] => []
  | item :: rest => sorted item :: sortedItems rest

/-- `sorted` of each member's value. -/
def sortedMembers : List (String × Json) → List (String × Json)
  | [] => []
  | (name, value) :: rest => (name, sorted value) :: sortedMembers rest

end

end Json

end ClusterAudit
