-- SUMMARY: The compact and the indented text of a JSON value.
import ClusterAudit.Json.Value
import ClusterAudit.Text.Digit

/-!
# JSON text

Two written forms of one value: a compact one without any blank, and one with a
line for each item, indented by two spaces a level. In a string only the quote,
the backslash and the control characters are escaped.
-/

namespace ClusterAudit.Json

/-! ## Scalars -/

def escapeChar (c : Char) : List Char :=
  if c = '"' then ['\\', '"']
  else if c = '\\' then ['\\', '\\']
  else if c = '\x08' then ['\\', 'b']
  else if c = '\x0c' then ['\\', 'f']
  else if c = '\n' then ['\\', 'n']
  else if c = '\r' then ['\\', 'r']
  else if c = '\t' then ['\\', 't']
  else if c.toNat < 0x20 then
    ['\\', 'u', '0', '0', Text.lowerHexDigit (c.toNat / 16), Text.lowerHexDigit (c.toNat % 16)]
  else [c]

def printString (s : String) : List Char :=
  '"' :: (s.toList.flatMap escapeChar ++ ['"'])

def printNumber : JsonNumber → List Char
  | .natural n => (toString n).toList
  | .negative n => '-' :: (toString n).toList
  | .binary x => x.text.toList

def printBool (b : Bool) : List Char := (if b then "true" else "false").toList

/-! ## Compact text -/

mutual

/-- The value without any blank. -/
def printCompact : Json → List Char
  | .null => "null".toList
  | .bool b => printBool b
  | .number n => printNumber n
  | .string s => printString s
  | .array items => '[' :: (printItems items ++ [']'])
  | .object members => '{' :: (printMembers members ++ ['}'])

/-- Items with a comma between any two. -/
def printItems : List Json → List Char
  | [] => []
  | [item] => printCompact item
  | item :: rest => printCompact item ++ ',' :: printItems rest

/-- Members with a comma between any two. -/
def printMembers : List (String × Json) → List Char
  | [] => []
  | [(name, value)] => printString name ++ ':' :: printCompact value
  | (name, value) :: rest =>
    printString name ++ ':' :: (printCompact value ++ ',' :: printMembers rest)

end

def compact (value : Json) : String := String.ofList value.printCompact

/-! ## Indented text -/

/-- The start of a line at a level of indentation. -/
def newLine (level : Nat) : List Char := '\n' :: List.replicate (2 * level) ' '

mutual

/-- The value with a line for each item of an array or object that has any. -/
def printPretty (level : Nat) : Json → List Char
  | .null => "null".toList
  | .bool b => printBool b
  | .number n => printNumber n
  | .string s => printString s
  | .array [] => ['[', ']']
  | .array (item :: rest) =>
    '[' :: (prettyItems (level + 1) (item :: rest) ++ newLine level ++ [']'])
  | .object [] => ['{', '}']
  | .object (member :: rest) =>
    '{' :: (prettyMembers (level + 1) (member :: rest) ++ newLine level ++ ['}'])

/-- Items, each on a line of its own. -/
def prettyItems (level : Nat) : List Json → List Char
  | [] => []
  | [item] => newLine level ++ printPretty level item
  | item :: rest => newLine level ++ printPretty level item ++ ',' :: prettyItems level rest

/-- Members, each on a line of its own. -/
def prettyMembers (level : Nat) : List (String × Json) → List Char
  | [] => []
  | [(name, value)] => newLine level ++ printString name ++ ':' :: ' ' :: printPretty level value
  | (name, value) :: rest =>
    newLine level ++ printString name ++
      ':' :: ' ' :: (printPretty level value ++ ',' :: prettyMembers level rest)

end

def pretty (value : Json) : String := String.ofList (value.printPretty 0)

end ClusterAudit.Json
