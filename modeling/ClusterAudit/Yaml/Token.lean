-- SUMMARY: The tokens of a YAML text.
import ClusterAudit.Yaml.Scalar

/-!
# Tokens

A YAML text is cut into tokens in which the nesting that it shows by indentation
is written out: a token begins each block collection, and another ends it.

Whether a scalar is the key of a mapping shows only at the colon behind it. So
the place of a possible key is kept, and the tokens for the key are put in front
of it when the colon comes. A possible key has to be on the line of its colon.
-/

namespace ClusterAudit.Yaml

/-- A token. -/
inductive Token
  | version
  /-- The declaration of a handle for tags. -/
  | handle (name replacement : String)
  | documentStart
  | documentEnd
  | blockSequence
  | blockMapping
  | blockEnd
  | flowSequence
  | flowSequenceEnd
  | flowMapping
  | flowMappingEnd
  | blockEntry
  | flowEntry
  | key
  | value
  | alias (name : String)
  | anchor (name : String)
  | tag (handle suffix : String)
  | scalar (text : String) (plain : Bool)
deriving DecidableEq, Repr, Inhabited

/-! ## State -/

/-- A possible key of a mapping. -/
structure SimpleKey where
  /-- Whether it can be nothing but a key. -/
  required : Bool
  /-- How many tokens stand before it. -/
  position : Nat
  place : Place
deriving DecidableEq, Repr, Inhabited

/-- The tokens so far, last first, and what decides about those to come. -/
structure Scan where
  tokens : List Token := []
  /-- Whether a key may begin here. -/
  keyAllowed : Bool := true
  /-- The possible key of each open flow collection, innermost first, and of the text itself. -/
  keys : List (Option SimpleKey) := [none]
  /-- The columns of the open block collections, innermost first. -/
  indents : List Nat := []
deriving DecidableEq, Repr, Inhabited

namespace Scan

/-- Whether a flow collection is open. -/
def isFlow (s : Scan) : Bool := 1 < s.keys.length

/-- The scan with a token added. -/
def push (s : Scan) (token : Token) : Scan := { s with tokens := token :: s.tokens }

/-- The scan with a token put in after so many others. -/
def insert (s : Scan) (position : Nat) (token : Token) : Scan :=
  let later := s.tokens.length - position
  { s with tokens := s.tokens.take later ++ token :: s.tokens.drop later }

/-- The scan with the innermost key replaced. -/
def setKey (s : Scan) (key : Option SimpleKey) : Scan := { s with keys := key :: s.keys.drop 1 }

/-- Sets whether a key may start here. -/
def allowKey (s : Scan) (allowed : Bool) : Scan := { s with keyAllowed := allowed }

/-- Opens a block collection at a column further in than all open ones. -/
def openBlock (s : Scan) (column position : Nat) (token : Token) : Scan :=
  if s.isFlow || (s.indents.head?.any fun indent => column ≤ indent) then s
  else { s.insert position token with indents := column :: s.indents }

/-- Ends the block collections further in than a column, or all of them. -/
def closeBlocks (s : Scan) (column : Option Nat) : Scan :=
  let isInside (indent : Nat) : Bool :=
    match column with
    | some n => n < indent
    | none => true
  if s.isFlow then s
  else
    let inside := s.indents.takeWhile isInside
    { s with
      tokens := inside.map (fun _ => .blockEnd) ++ s.tokens
      indents := s.indents.drop inside.length }

/-- Gives up the innermost possible key. -/
def dropKey (s : Scan) : Option Scan :=
  match s.keys.head? with
  | some (some key) => if key.required then none else some (s.setKey none)
  | _ => some s

/-- Keeps what comes next as a possible key. -/
def saveKey (s : Scan) (p : Place) : Option Scan :=
  if s.keyAllowed then do
    let s ← s.dropKey
    let required := !s.isFlow && s.indents.head? == some p.column
    return s.setKey (some { required, position := s.tokens.length, place := p })
  else some s

/-- Whether the colon of a key may still come. -/
def isFresh (p : Place) (key : SimpleKey) : Bool :=
  key.place.line == p.line && p.column ≤ key.place.column + 1024

/-- Gives up the possible keys whose colon cannot come any more. -/
def dropStaleKeys (s : Scan) (p : Place) : Option Scan := do
  let keys ← s.keys.mapM fun
    | some key =>
      if isFresh p key then some (some key) else if key.required then none else some none
    | none => some none
  return { s with keys }

end Scan

/-! ## Gaps -/

/-- Passes over spaces, comments and line breaks; tells whether a key may begin behind them. A tab
does not count as space where a key may begin. -/
def skipGaps (flow keyAllowed comment : Bool) (p : Place) : List Char → Bool × Cursor
  | [] => (keyAllowed, ⟨[], p⟩)
  | c :: rest =>
    if isBreak c then skipGaps flow (keyAllowed || !flow) false (p.after c) rest
    else if comment || c == '#' then skipGaps flow keyAllowed true (p.after c) rest
    else if c == ' ' || (c == '\t' && (flow || !keyAllowed)) then
      skipGaps flow keyAllowed false (p.after c) rest
    else (keyAllowed, ⟨c :: rest, p⟩)

/-! ## Names, tags and directives -/

def isNameChar (c : Char) : Bool := c.isAlphanum || c == '-' || c == '_'

def endsName : List Char → Bool
  | [] => true
  | c :: rest => isGapAhead (c :: rest) || ['?', ':', ',', ']', '}', '%', '@', '`'].contains c

/-- Reads the name of an anchor or an alias, behind its sign. -/
def readName (c : Cursor) : Option (String × Cursor) :=
  let name := c.rest.takeWhile isNameChar
  let c := c.skip name.length
  if name.isEmpty || !endsName c.rest then none else some (String.ofList name, c)

def isTagChar (c : Char) : Bool := isNameChar c || ";/?:@&=+$.!~*'()%".toList.contains c

/-- Splits the handle off a tag that is not given in full. -/
def splitTag (tag : List Char) : List Char × List Char :=
  let name := (tag.drop 1).takeWhile isNameChar
  match tag.drop (name.length + 1) with
  | '!' :: suffix => ('!' :: (name ++ ['!']), suffix)
  | _ => (['!'], tag.drop 1)

/-- Reads a tag, from its exclamation mark on. -/
def readTag (flow : Bool) (c : Cursor) : Option (Token × Cursor) := do
  let isFull := c.rest.drop 1 |>.head? |>.any (· == '<')
  let (handle, suffix, c) ←
    if isFull then
      let uri := (c.rest.drop 2).takeWhile fun d => isTagChar d || d == ',' || d == '[' || d == ']'
      let c := c.skip (uri.length + 2)
      if uri.isEmpty || c.rest.head? != some '>' then none else some ([], uri, c.skip 1)
    else
      let tag := c.rest.takeWhile isTagChar
      let (handle, suffix) := splitTag tag
      if 1 < handle.length && suffix.isEmpty then none
      else some (handle, suffix, c.skip tag.length)
  if isGapAhead c.rest || (flow && c.rest.head? == some ',') then
    return (.tag (String.ofList handle) (String.ofList suffix), c)
  else none

/-- The words of a line, up to a comment. -/
def lineWords (line : List Char) : List String :=
  let words := ((String.ofList line).splitToList isSpace).filter (· != "")
  words.takeWhile fun word => !word.startsWith "#"

/-- Whether a word can be the handle of tags. -/
def isHandle (word : String) : Bool :=
  match word.toList with
  | ['!'] => true
  | '!' :: rest => rest.getLast? == some '!' && rest.dropLast.all isNameChar
  | _ => false

/-- Reads a directive, from its percent sign on. -/
def readDirective (c : Cursor) : Option (Token × Cursor) :=
  let line := c.rest.takeWhile (!isBreak ·)
  let behind := c.skip line.length
  match lineWords line with
  | ["%YAML", number] =>
    if number = "1.1" ∨ number = "1.2" then some (.version, behind) else none
  | ["%TAG", name, replacement] =>
    if isHandle name && replacement.toList.all (fun d => isTagChar d || d == ',') then
      some (.handle name replacement, behind)
    else none
  | _ => none

/-! ## Steps -/

namespace Scan

/-- A token of one character behind which no key may begin. -/
def mark (s : Scan) (c : Cursor) (token : Token) : Scan × Cursor := (s.push token, c.skip 1)

/-- A mark between documents, and all blocks ended before it. -/
def documentMark (s : Scan) (c : Cursor) (token : Token) : Option (Scan × Cursor) := do
  let s ← (s.closeBlocks none).dropKey
  return ((s.allowKey false).push token, c.skip 3)

/-- The beginning of a flow collection. -/
def openFlow (s : Scan) (c : Cursor) (token : Token) : Option (Scan × Cursor) := do
  let s ← s.saveKey c.place
  return ({ s with keys := none :: s.keys, keyAllowed := true }.mark c token)

/-- The end of a flow collection. -/
def closeFlow (s : Scan) (c : Cursor) (token : Token) : Option (Scan × Cursor) := do
  let s ← s.dropKey
  let keys := if s.isFlow then s.keys.drop 1 else s.keys
  return ({ s with keys, keyAllowed := false }.mark c token)

/-- The comma of a flow collection. -/
def flowEntry (s : Scan) (c : Cursor) : Option (Scan × Cursor) := do
  let s ← s.dropKey
  return (s.allowKey true).mark c .flowEntry

/-- The dash before an item. -/
def blockEntry (s : Scan) (c : Cursor) : Option (Scan × Cursor) := do
  if !s.isFlow && !s.keyAllowed then none
  let s ← (s.openBlock c.place.column s.tokens.length .blockSequence).dropKey
  return (s.allowKey true).mark c .blockEntry

/-- The question mark before a key. -/
def explicitKey (s : Scan) (c : Cursor) : Option (Scan × Cursor) := do
  if !s.isFlow && !s.keyAllowed then none
  let s ← (s.openBlock c.place.column s.tokens.length .blockMapping).dropKey
  return (s.allowKey (!s.isFlow)).mark c .key

/-- The colon before a value. -/
def valueMark (s : Scan) (c : Cursor) : Option (Scan × Cursor) :=
  match s.keys.head? with
  | some (some key) =>
    let s := (s.insert key.position .key).openBlock key.place.column key.position .blockMapping
    some (((s.setKey none).allowKey false).mark c .value)
  | _ =>
    if !s.isFlow && !s.keyAllowed then none
    else
      let s := s.openBlock c.place.column s.tokens.length .blockMapping
      some ((s.allowKey (!s.isFlow)).mark c .value)

/-- An anchor, an alias or a tag, behind which no key may begin. -/
def property (s : Scan) (c : Cursor) (read : Option (Token × Cursor)) : Option (Scan × Cursor) := do
  let s ← s.saveKey c.place
  let (token, after) ← read
  return ((s.allowKey false).push token, after)

/-- A scalar that may be a key. -/
def lineScalar (s : Scan) (c : Cursor) (plain : Bool) (read : Option ScalarRead) :
    Option (Scan × Cursor) := do
  let s ← s.saveKey c.place
  let scalar ← read
  return ((s.allowKey scalar.broken).push (.scalar scalar.text plain), scalar.cursor)

/-- A block of lines. -/
def block (s : Scan) (c : Cursor) (folds : Bool) : Option (Scan × Cursor) := do
  let s ← s.dropKey
  let scalar ← blockScalar folds s.indents.head? (c.skip 1)
  return ((s.allowKey true).push (.scalar scalar.text false), scalar.cursor)

/-- Whether a plain scalar may begin with a character. -/
def startsPlain (flow : Bool) (c : Char) (rest : List Char) : Bool :=
  if c == '-' then !(rest.head?.any isSpace)
  else if c == '?' || c == ':' then !flow && !isGapAhead rest
  else !("-?:,[]{}#&*!|>'\"%@`".toList.contains c || isSpace c || isBreak c)

/-- Reads the token that begins with a character in the middle of a line. -/
def content (s : Scan) (c : Cursor) (first : Char) (rest : List Char) : Option (Scan × Cursor) :=
  let quoted := c.skip 1
  match first with
  | '[' => s.openFlow c .flowSequence
  | ']' => s.closeFlow c .flowSequenceEnd
  | '{' => s.openFlow c .flowMapping
  | '}' => s.closeFlow c .flowMappingEnd
  | ',' => s.flowEntry c
  | '*' => s.property c ((readName quoted).map fun (name, after) => (.alias name, after))
  | '&' => s.property c ((readName quoted).map fun (name, after) => (.anchor name, after))
  | '!' => s.property c (readTag s.isFlow c)
  | '\'' => s.lineScalar c false (singleQuoted [] {} quoted.place rest)
  | '"' => s.lineScalar c false (doubleQuoted [] {} .none quoted.place rest)
  | _ =>
    if first == '-' && isGapAhead rest then s.blockEntry c
    else if first == '?' && (s.isFlow || isGapAhead rest) then s.explicitKey c
    else if first == ':' && (s.isFlow || isGapAhead rest) then s.valueMark c
    else if first == '|' && !s.isFlow then s.block c false
    else if first == '>' && !s.isFlow then s.block c true
    else if startsPlain s.isFlow first rest then
      let indent := match s.indents.head? with
        | some n => n + 1
        | none => 0
      s.lineScalar c true (plainScalar s.isFlow indent [] {} c.place c.rest)
    else none

/-- Reads the next token, if there is one. -/
def next (s : Scan) (c : Cursor) : Option (Scan × Cursor) := do
  let s ← s.dropStaleKeys c.place
  match c.rest with
  | [] => return (← (s.closeBlocks none).dropKey, c)
  | first :: rest =>
    let s := s.closeBlocks (some c.place.column)
    if c.place.column = 0 ∧ first = '%' then do
      let s ← (s.closeBlocks none).dropKey
      let (token, c) ← readDirective c
      return ((s.allowKey false).push token, c)
    else if c.place.column = 0 ∧ isDocumentMark c.rest then
      s.documentMark c (if first = '-' then .documentStart else .documentEnd)
    else s.content c first rest

/-- Reads the tokens that are left; each step has to bring the end closer. -/
def run (s : Scan) (c : Cursor) : Option Scan :=
  let (keyAllowed, c') := skipGaps s.isFlow s.keyAllowed false c.place c.rest
  match (s.allowKey keyAllowed).next c' with
  | none => none
  | some (s, after) =>
    if c'.rest = [] then some s
    else if _h : after.rest.length < c.rest.length then s.run after
    else none
termination_by c.rest.length

end Scan

/-! ## Texts -/

def isAdmitted (c : Char) : Bool :=
  let n := c.toNat
  n == 0x09 || n == 0x0a || n == 0x0d || (0x20 ≤ n && n ≤ 0x7e) || n == 0x85
    || (0xa0 ≤ n && n ≤ 0xfffd) || 0x10000 ≤ n

/-- A text in which every line ends with a line feed, or with a separator of its own. -/
def unifyBreaks : List Char → List Char
  | [] => []
  | '\r' :: '\n' :: rest => '\n' :: unifyBreaks rest
  | '\r' :: rest => '\n' :: unifyBreaks rest
  | '\u0085' :: rest => '\n' :: unifyBreaks rest
  | c :: rest => c :: unifyBreaks rest

/-- The tokens of a text, if it can be cut into tokens. -/
def tokens? (text : List Char) : Option (List Token) :=
  if text.all isAdmitted then
    (({} : Scan).run ⟨unifyBreaks text, {}⟩).map fun s => s.tokens.reverse
  else none

end ClusterAudit.Yaml
