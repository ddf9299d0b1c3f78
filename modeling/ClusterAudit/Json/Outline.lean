-- SUMMARY: A JSON text as far as it can be read, with the place of each part and of each fault.
import ClusterAudit.Json.Value

/-!
# Outlines of JSON texts

An outline is what a JSON text says, up to its first fault. Decoding walks the
outline in the order of the text, so that of several faults, in the notation or
in the meaning, the first one in the text is the one that is reported.

A place in the text is kept as the part of the text that is still unread there;
its line and column are computed only when they are needed. The outline of a
value that was never text has no places and no faults.
-/

namespace ClusterAudit.Json

/-! ## Places and faults -/

/-- What may be wrong with the notation of a JSON text. -/
inductive Fault
  | endInValue
  | endInList
  | endInObject
  | endInString
  | expectedColon
  | expectedCommaInList
  | expectedCommaInObject
  | expectedWord
  | expectedValue
  | invalidEscape
  | invalidNumber
  | numberOutOfRange
  | controlCharacter
  | keyNotString
  | loneSurrogate
  | endOfHexEscape
  | trailingComma
  | trailingText
  | tooDeep
deriving DecidableEq, Repr

def Fault.message : Fault → String
  | .endInValue => "EOF while parsing a value"
  | .endInList => "EOF while parsing a list"
  | .endInObject => "EOF while parsing an object"
  | .endInString => "EOF while parsing a string"
  | .expectedColon => "expected `:`"
  | .expectedCommaInList => "expected `,` or `]`"
  | .expectedCommaInObject => "expected `,` or `\x7d`"
  | .expectedWord => "expected ident"
  | .expectedValue => "expected value"
  | .invalidEscape => "invalid escape"
  | .invalidNumber => "invalid number"
  | .numberOutOfRange => "number out of range"
  | .controlCharacter => "control character (\\u0000-\\u001F) found while parsing a string"
  | .keyNotString => "key must be a string"
  | .loneSurrogate => "lone leading surrogate in hex escape"
  | .endOfHexEscape => "unexpected end of hex escape"
  | .trailingComma => "trailing comma"
  | .trailingText => "trailing characters"
  | .tooDeep => "recursion limit exceeded"

/-- A place in a text: what is unread there, and by how many bytes the place lies
ahead of that. -/
structure Spot where
  unread : List Char
  ahead : Nat
deriving DecidableEq, Repr, Inhabited

/-- The place where reading stands. -/
def Spot.at (unread : List Char) : Spot := ⟨unread, 0⟩

/-- The place of the next character, counted as read. -/
def Spot.next (unread : List Char) : Spot := ⟨unread, 1⟩

def byteCount (cs : List Char) : Nat := cs.foldr (fun c bytes => c.utf8Size + bytes) 0

/-- Line and column after the first bytes of a text, from a line and a column. -/
def advance (line column : Nat) : Nat → List Char → Nat × Nat
  | _, [] => (line, column)
  | bytes, c :: rest =>
    if bytes = 0 then (line, column)
    else if c = '\n' then advance (line + 1) 0 (bytes - 1) rest
    else if c.utf8Size ≤ bytes then advance line (column + c.utf8Size) (bytes - c.utf8Size) rest
    else (line, column + bytes)

/-- The line, counted from one, and the column, in bytes, of a place in `text`. -/
def Spot.lineColumn (spot : Spot) (text : List Char) : Nat × Nat :=
  advance 1 0 (byteCount text - byteCount spot.unread + spot.ahead) text

/-- A fault and its place. -/
structure Stop where
  fault : Fault
  spot : Spot
deriving DecidableEq, Repr

/-! ## Outlines -/

/-- How an array or an object ends. -/
inductive Close
  /-- With its bracket; the text after it. -/
  | closed (after : List Char)
  /-- With a fault; the text where it shows. -/
  | faulty (fault : Fault) (unread : List Char)
  /-- With its last item, in a value that was never text. -/
  | counted
deriving Repr

/-- The name of a member: the name, and what is unread before its colon and
after its value. -/
structure Key where
  name : Except Stop String
  colon : List Char
  next : List Char

mutual

/-- A JSON text as far as it can be read. Scalars carry the text after them,
arrays and objects the text from their bracket on. -/
inductive Outline
  | null (after : List Char)
  | bool (b : Bool) (after : List Char)
  | number (n : Except Stop JsonNumber) (after : List Char)
  | string (s : Except Stop String) (after : List Char)
  | array (start : List Char) (items : Items)
  | object (start : List Char) (members : Members)
  /-- Nothing that can be read. -/
  | broken (stop : Stop)

/-- The items of an array, each with the text it starts. -/
inductive Items
  | done (close : Close)
  | more (start : List Char) (item : Outline) (rest : Items)

inductive Members
  | done (close : Close)
  | more (key : Key) (value : Outline) (rest : Members)

end

instance : Inhabited Outline := ⟨.null []⟩

/-! ## Outlines of values -/

mutual

def Outline.ofJson : Json → Outline
  | .null => .null []
  | .bool b => .bool b []
  | .number n => .number (.ok n) []
  | .string s => .string (.ok s) []
  | .array items => .array [] (Items.ofJson items)
  | .object members => .object [] (Members.ofJson members)

def Items.ofJson : List Json → Items
  | [] => .done .counted
  | item :: rest => .more [] (Outline.ofJson item) (Items.ofJson rest)

def Members.ofJson : List (String × Json) → Members
  | [] => .done .counted
  | (name, value) :: rest => .more ⟨.ok name, [], []⟩ (Outline.ofJson value) (Members.ofJson rest)

end

end ClusterAudit.Json
