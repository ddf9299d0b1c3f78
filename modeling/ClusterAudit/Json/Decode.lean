-- SUMMARY: Decoding JSON values into other types, and what can be wrong with them.
import ClusterAudit.Json.Value
import ClusterAudit.Text.Quoted

/-!
# Decoding values

The rules by which a JSON value becomes a text, a count, a list, a record or one
of several named cases, and the wording of every way in which it may fail.

A record is an object, or an array of its fields in order. Of several faults in
an object the one in the first member is reported; a field that is missing is
reported only when all members that are there can be decoded.
-/

namespace ClusterAudit.Json

/-! ## Causes -/

inductive Misfit
  /-- A value of the wrong type: what it is, and what is expected. -/
  | invalidType (actual expected : String)
  /-- A value of the right type that is not allowed. -/
  | invalidValue (actual expected : String)
  /-- An array with the wrong number of items. -/
  | invalidLength (count : Nat) (expected : String)
  | missingField (name : String)
  | duplicateField (name : String)
  | unknownVariant (name : String) (variants : List String)
  /-- A text that does not have the right form. -/
  | malformed (reason : String)
deriving DecidableEq, Repr

/-- Names in a message, each between backquotes. -/
def backquoted (names : List String) : String :=
  String.intercalate ", " (names.map fun name => "`" ++ name ++ "`")

def Misfit.message : Misfit → String
  | .invalidType actual expected => "invalid type: " ++ actual ++ ", expected " ++ expected
  | .invalidValue actual expected => "invalid value: " ++ actual ++ ", expected " ++ expected
  | .invalidLength count expected => s!"invalid length {count}, expected " ++ expected
  | .missingField name => "missing field `" ++ name ++ "`"
  | .duplicateField name => "duplicate field `" ++ name ++ "`"
  | .unknownVariant name variants =>
    "unknown variant `" ++ name ++ "`, expected one of " ++ backquoted variants
  | .malformed reason => reason

abbrev Decoded := Except Misfit

/-! ## Naming a value in a message -/

/-- How a truth value is named in a misfit. -/
def describeBool (b : Bool) : String := "boolean `" ++ toString b ++ "`"

def describeNumber : JsonNumber → String
  | .natural n => s!"integer `{n}`"
  | .negative n => s!"integer `-{n}`"
  | .binary x => "floating point `" ++ x.text ++ "`"

def describeString (s : String) : String := "string " ++ Text.quoted s

/-- How a message names a value. -/
def describe : Json → String
  | .null => "null"
  | .bool b => describeBool b
  | .number n => describeNumber n
  | .string s => describeString s
  | .array _ => "sequence"
  | .object _ => "map"

/-- The fault of a value that is not what is expected. -/
def mismatch (value : Json) (expected : String) : Misfit := .invalidType value.describe expected

/-! ## Scalars and lists -/

def asString : Json → Decoded String
  | .string s => .ok s
  | other => .error (mismatch other "a string")

/-- Takes a value as a truth value. -/
def asBool : Json → Decoded Bool
  | .bool b => .ok b
  | other => .error (mismatch other "a boolean")

/-- A count: an integer from zero. -/
def asCount : Json → Decoded Nat
  | .number (.natural n) => .ok n
  | .number (.negative n) => .error (.invalidValue (describeNumber (.negative n)) "usize")
  | other => .error (mismatch other "usize")

/-- A list whose items are decoded by `item`, up to the first fault. -/
def asList {α : Type} (item : Json → Decoded α) : Json → Decoded (List α)
  | .array items => items.mapM item
  | other => .error (mismatch other "a sequence")

/-! ## Named cases -/

/-- The value called `name` among named ones. -/
def variant {α : Type} (cases : List (String × α)) (name : String) : Decoded α :=
  match cases.find? (·.1 == name) with
  | some (_, value) => .ok value
  | none => .error (.unknownVariant name (cases.map (·.1)))

/-- One of several named values: its name, or an object that maps the name to nothing. -/
def asVariant {α : Type} (cases : List (String × α)) : Json → Decoded α
  | .string name => variant cases name
  | .object [(name, content)] => do
    let value ← variant cases name
    match content with
    | .null => return value
    | other => .error (mismatch other "unit")
  | .object _ => .error (.invalidValue "map" "map with a single key")
  | other => .error (mismatch other "string or map")

/-! ## Records -/

/-- A field that a record knows: its name, and whether a value suits it. -/
structure FieldRule where
  name : String
  accepts : Json → Decoded Unit

/-- The rule for a field that is decoded by `decode`. -/
def FieldRule.of {α : Type} (name : String) (decode : Json → Decoded α) : FieldRule :=
  ⟨name, fun value => (decode value).map fun _ => ()⟩

def checkMembers (rules : List FieldRule) : List (String × Json) → Decoded Unit
  | [] => .ok ()
  | (name, value) :: rest => do
    match rules.find? (·.name == name) with
    | some rule => rule.accepts value
    | none => pure ()
    checkMembers rules rest

/-- The value of the member called `name`. -/
def lookup (name : String) (members : List (String × Json)) : Option Json :=
  (members.find? (·.1 == name)).map (·.2)

def required {α : Type} (members : List (String × Json)) (name : String)
    (decode : Json → Decoded α) : Decoded α :=
  match lookup name members with
  | some value => decode value
  | none => .error (.missingField name)

def optional {α : Type} (members : List (String × Json)) (name : String) (absent : α)
    (decode : Json → Decoded α) : Decoded α :=
  match lookup name members with
  | some value => decode value
  | none => .ok absent

/-- The item at a place of an array that stands for a record. -/
def itemAt {α : Type} (items : List Json) (place : Nat) (expected : String)
    (decode : Json → Decoded α) : Decoded α :=
  match items[place]? with
  | some value => decode value
  | none => .error (.invalidLength place expected)

/-- Refuses an array with more items than a record has fields. -/
def checkLength (items : List Json) (fields : Nat) : Decoded Unit :=
  if fields < items.length then
    .error (.invalidLength items.length "fewer elements in array")
  else .ok ()

end ClusterAudit.Json
