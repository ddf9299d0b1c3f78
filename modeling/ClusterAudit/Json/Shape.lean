-- SUMMARY: Shapes of values, and the check of an outline against a shape.
import ClusterAudit.Json.Located

/-!
# Shapes

A shape says which values a document may hold at a place. An outline is checked
against a shape in the order of the text, so that the first fault is reported,
whether it lies in the notation or in the type of a value. Once the check has
passed, the value of the outline can be taken apart without further ado.

There are three kinds of records:

* resource records, whose fields may all be missing or null, of which the last
  of two with one name counts, and which know no array form;
* open records, which name some of their fields and keep all others;
* closed records, which may also be written as an array of their fields.

A resource record is named, and its fields are looked up in a schema, so that a
record may occur inside itself.
-/

namespace ClusterAudit.Json

/-- When a field of an open or closed record has to be there. -/
inductive Presence
  | always
  | inArrays
  | never
deriving DecidableEq, Repr

/-- What a document may hold at a place. -/
inductive Shape
  | text
  | flag
  /-- An integer between two limits; the name of its kind. -/
  | integer (kind : String) (low high : Int)
  /-- A text that `accepts` lets pass, or a fault of it. The expected kind of text. -/
  | formed (kind : String) (accepts : String → Except String Unit)
  /-- The text of `formed`, or null. -/
  | formedOrNull (kind : String) (accepts : String → Except String Unit)
  /-- One text only. -/
  | constant (text : String)
  /-- Any number. -/
  | number
  /-- An integer of 32 bits or a text. -/
  | integerOrText
  | anything
  | nullable (shape : Shape)
  | list (item : Shape)
  | table (value : Shape)
  | resource (title : String)
  /-- A resource record, or a value of another shape: a flag or a list. -/
  | resourceOr (title record : String) (other : Shape)
  | openRecord (title : String) (fields : List (String × Presence × Shape))
  | closedRecord (title : String) (fields : List (String × Presence × Shape))

/-- The fields of the resource records. -/
abbrev Schema := String → List (String × Shape)

def field? {α : Type} (fields : List (String × α)) (name : String) : Option α :=
  (fields.find? (·.1 == name)).map (·.2)

/-- A whole number that fits 32 bits. -/
def int32Shape : Shape := .integer "i32" (-2 ^ 31) (2 ^ 31 - 1)
/-- A whole number that fits 64 bits. -/
def int64Shape : Shape := .integer "i64" (-2 ^ 63) (2 ^ 63 - 1)

/-! ## Scalars -/

/-- Checks that an outline is an integer between two limits. -/
def Outline.checkInteger (kind : String) (low high : Int) (outline : Outline) :
    Except DecodeFault Unit :=
  match outline with
  | .number (.ok n) after =>
    match n.integer? with
    | some i =>
      if low ≤ i ∧ i ≤ high then .ok ()
      else .error (.misfit (.invalidValue (describeNumber n) kind) (.at after))
    | none => .error (outline.mismatch kind)
  | _ => .error (outline.mismatch kind)

/-- Checks that an outline is a text that is accepted. -/
def Outline.checkFormed (kind : String) (accepts : String → Except String Unit)
    (outline : Outline) : Except DecodeFault Unit :=
  match outline with
  | .string (.ok s) after =>
    match accepts s with
    | .ok () => .ok ()
    | .error reason => .error (.misfit (.malformed reason) (.at after))
  | _ => .error (outline.mismatch kind)

/-- Checks that an outline is one text only. Another text is reported at `spot`. -/
def Outline.checkConstant (text : String) (spot : Spot) (outline : Outline) :
    Except DecodeFault Unit :=
  match outline with
  | .string (.ok s) _ =>
    if s = text then .ok () else .error (.misfit (.invalidValue (describeString s) text) spot)
  | _ => .error (outline.mismatch "a string")

/-! ## Records -/

/-- The fault of a record that ends without a field it must have. -/
def checkPresent (fields : List (String × Presence × Shape)) (seen : List String) (spot : Spot) :
    Except DecodeFault Unit :=
  match fields.find? fun (name, presence, _) => presence == .always && !seen.contains name with
  | some (name, _) => .error (.misfit (.missingField name) spot)
  | none => .ok ()

/-- What a message calls an array of a record's fields. -/
def arrayTitle (title : String) (count : Nat) : String :=
  title ++ s!" with {count} element" ++ (if count = 1 then "" else "s")

/-- The fault of an array that ends before a field that must be there. -/
def checkComplete (title : String) (fields : List (String × Presence × Shape)) (taken : Nat)
    (spot : Spot) : Except DecodeFault Unit :=
  match (fields.drop taken).findIdx? fun (_, presence, _) => presence != .never with
  | some place =>
    .error (.misfit (.invalidLength (taken + place) (arrayTitle title fields.length)) spot)
  | none => .ok ()

/-! ## Checking -/

/-- The shape of a value that is not null. -/
def Shape.base : Shape → Shape
  | .nullable shape => shape
  | shape => shape

/-- What a message expects where a shape stands. -/
def Shape.expected : Shape → String
  | .text => "a string"
  | .flag => "a boolean"
  | .integer kind _ _ => kind
  | .formed kind _ => kind
  | .formedOrNull kind _ => kind
  | .constant _ => "a string"
  | .number => "f64"
  | .integerOrText => "IntOrString"
  | .anything => "any valid JSON value"
  | .nullable _ => "option"
  | .list _ => "a sequence"
  | .table _ => "a map"
  | .resource title => title
  | .resourceOr title _ _ => title
  | .openRecord title _ => title
  | .closedRecord title _ => title

/-- Checks an outline that is neither array nor object against a shape that is not null. -/
def Outline.checkScalar (shape : Shape) (outline : Outline) : Except DecodeFault Unit :=
  match shape, outline with
  | .text, .string (.ok _) _ => .ok ()
  | .flag, .bool _ _ => .ok ()
  | .integer kind low high, outline => outline.checkInteger kind low high
  | .formed kind accepts, outline => outline.checkFormed kind accepts
  | .formedOrNull _ _, .null _ => .ok ()
  | .formedOrNull kind accepts, outline => outline.checkFormed kind accepts
  | .constant text, .string s after => Outline.checkConstant text (.at after) (.string s after)
  | .number, .number (.ok _) _ => .ok ()
  | .integerOrText, .string (.ok _) _ => .ok ()
  | .integerOrText, .number n after =>
    -- A number that is no integer is told from an integer that is too large.
    if (n.toOption.bind JsonNumber.integer?).isSome then
      Outline.checkInteger "a 32-bit integer" (-2 ^ 31) (2 ^ 31 - 1) (.number n after)
    else .error (Outline.mismatch "IntOrString" (.number n after))
  | .resourceOr _ _ .flag, .bool _ _ => .ok ()
  | .anything, outline => (outline.value nestingLimit).map fun _ => ()
  | shape, outline => .error (outline.mismatch shape.expected)

/-- Goes into an array or object, unless it is nested too deep. -/
def deeper (depth : Nat) (start : List Char) (inner : Except DecodeFault Unit) :
    Except DecodeFault Unit :=
  if depth ≤ 1 then .error (tooDeep start) else inner

mutual

/-- Checks an outline, nested less than `depth`, against a shape. -/
def Outline.check (schema : Schema) (depth : Nat) (shape : Shape) :
    Outline → Except DecodeFault Unit
  | .array start items =>
    match shape.base with
    | .anything => deeper depth start ((items.values (depth - 1)).map fun _ => ())
    | .list item => deeper depth start (Items.checkEach schema (depth - 1) item items)
    | .closedRecord title fields =>
      deeper depth start (Items.checkFields schema (depth - 1) title fields 0 items)
    | .resourceOr _ _ (.list item) =>
      deeper depth start (Items.checkEach schema (depth - 1) item items)
    | .resource title | .resourceOr title _ _ =>
      deeper depth start (.error (.misfit (.invalidType "sequence" title) (insideArray start)))
    | other => .error (Outline.mismatch other.expected (.array start items))
  | .object start members =>
    match shape.base with
    | .anything => deeper depth start ((members.values (depth - 1)).map fun _ => ())
    | .table value => deeper depth start (Members.checkTable schema (depth - 1) value members)
    | .resource title | .resourceOr _ title _ =>
      deeper depth start (Members.checkResource schema (depth - 1) (schema title) members)
    | .openRecord _ fields =>
      deeper depth start (Members.checkRecord schema (depth - 1) true fields [] members)
    | .closedRecord _ fields =>
      deeper depth start (Members.checkRecord schema (depth - 1) false fields [] members)
    | other => .error (Outline.mismatch other.expected (.object start members))
  | .null after =>
    match shape with
    | .nullable _ => .ok ()
    | shape => Outline.checkScalar shape (.null after)
  | other => Outline.checkScalar shape.base other

/-- Checks items against one shape. -/
def Items.checkEach (schema : Schema) (depth : Nat) (shape : Shape) :
    Items → Except DecodeFault Unit
  | .done close => close.check
  | .more _ item rest => do
    item.check schema depth shape
    rest.checkEach schema depth shape

/-- Checks items as the fields of a closed record, of which `taken` have been seen. -/
def Items.checkFields (schema : Schema) (depth : Nat) (title : String)
    (fields : List (String × Presence × Shape)) (taken : Nat) : Items → Except DecodeFault Unit
  | .done close => do
    close.check
    checkComplete title fields taken close.spot
  | .more start item rest =>
    match fields[taken]? with
    | none => .error (.unreadable ⟨.trailingText, .next start⟩)
    | some (_, _, shape) => do
      item.check schema depth shape
      rest.checkFields schema depth title fields (taken + 1)

/-- Checks the values of members against one shape. -/
def Members.checkTable (schema : Schema) (depth : Nat) (shape : Shape) :
    Members → Except DecodeFault Unit
  | .done close => close.check
  | .more key item rest => do
    let _ ← unstopped key.name
    item.check schema depth shape
    rest.checkTable schema depth shape

def Members.checkResource (schema : Schema) (depth : Nat) (fields : List (String × Shape)) :
    Members → Except DecodeFault Unit
  | .done close => close.check
  | .more key item rest => do
    let name ← unstopped key.name
    match field? fields name with
    | none => item.skip
    | some (.constant text) => Outline.checkConstant text key.afterValue item
    | some shape => item.check schema depth (.nullable shape)
    rest.checkResource schema depth fields

/-- Checks members as the fields of an open or closed record, of which some have been seen. -/
def Members.checkRecord (schema : Schema) (depth : Nat) (isOpen : Bool)
    (fields : List (String × Presence × Shape)) (seen : List String) :
    Members → Except DecodeFault Unit
  | .done close => do
    close.check
    checkPresent fields seen close.spot
  | .more key item rest => do
    let name ← unstopped key.name
    match field? fields name with
    | none => if isOpen then (item.value depth).map fun _ => () else item.skip
    | some (_, shape) =>
      if seen.contains name then .error (.misfit (.duplicateField name) (.at key.colon))
      else item.check schema depth shape
    rest.checkRecord schema depth isOpen fields (name :: seen)

end

/-! ## Documents -/

def Shape.parse (schema : Schema) (shape : Shape) (text : List Char) : Except DecodeFault Json := do
  let (outline, left) := readText text
  outline.check schema nestingLimit shape
  checkEnd left
  return outline.gist

def Shape.fit (schema : Schema) (shape : Shape) (value : Json) : Except DecodeFault Json := do
  let outline := Outline.ofJson value
  outline.check schema (2 ^ 16) shape
  return outline.gist

/-- The field called `name` of a record, which may be written as an array of the named fields. -/
def fieldOf (names : List String) (name : String) : Json → Option Json
  | .object members => lookup name members
  | .array items => (names.findIdx? (· == name)).bind fun place => items[place]?
  | _ => none

end ClusterAudit.Json
