-- SUMMARY: The scalars of a YAML text: plain, quoted and in blocks.
import ClusterAudit.Text.Digit

/-!
# Scalars

A scalar is written plainly, between quotes, or as a block of lines. Where it
runs over several lines, a single line break between two words counts as a
space, and of more than one the first is dropped.

Every reader starts behind the indicator of its scalar, if there is one, and
tells what is left of the text and where it is. A reader that gives nothing has
met a fault.
-/

namespace ClusterAudit.Yaml

/-! ## Characters and places -/

/-- The characters that end a line, once returns have become line feeds. -/
def isBreak (c : Char) : Bool := c == '\n' || c == '\u2028' || c == '\u2029'

/-- The characters that separate on one line. -/
def isSpace (c : Char) : Bool := c == ' ' || c == '\t'

/-- Whether a text begins with a space, a tab or a line break, or is at its end. -/
def isGapAhead : List Char → Bool
  | [] => true
  | c :: _ => isSpace c || isBreak c

/-- The line and the column of a character, both from zero. -/
structure Place where
  line : Nat := 0
  column : Nat := 0
deriving DecidableEq, Repr, Inhabited

def Place.after (p : Place) (c : Char) : Place :=
  if isBreak c then ⟨p.line + 1, 0⟩ else ⟨p.line, p.column + 1⟩

/-- What is left of a text, and its place. -/
structure Cursor where
  rest : List Char
  place : Place := {}
deriving DecidableEq, Repr, Inhabited

/-- The cursor behind some characters of one line. -/
def Cursor.skip (c : Cursor) (count : Nat) : Cursor :=
  ⟨c.rest.drop count, ⟨c.place.line, c.place.column + count⟩⟩

/-- Whether a text begins with a mark between documents. -/
def isDocumentMark : List Char → Bool
  | '-' :: '-' :: '-' :: rest => isGapAhead rest
  | '.' :: '.' :: '.' :: rest => isGapAhead rest
  | _ => false

/-! ## Gaps -/

/-- The gap between two words: the spaces before its first line break, and the breaks, both last
first. -/
structure Gap where
  spaces : List Char := []
  breaks : List Char := []
  /-- Whether the gap begins with a line break that is escaped. -/
  escaped : Bool := false
deriving DecidableEq, Repr, Inhabited

namespace Gap

/-- Whether the gap holds a line break. -/
def isBroken (g : Gap) : Bool := g.escaped || !g.breaks.isEmpty

/-- Whether there is nothing in the gap. -/
def isEmpty (g : Gap) : Bool := g.spaces.isEmpty && !g.isBroken

/-- The gap with one more space or break. -/
def push (g : Gap) (c : Char) : Gap :=
  if isBreak c then { g with breaks := c :: g.breaks }
  else if g.isBroken then g
  else { g with spaces := c :: g.spaces }

/-- What the gap stands for, last character first. -/
def folded (g : Gap) : List Char :=
  if g.escaped then g.breaks
  else
    match g.breaks.reverse with
    | [] => g.spaces
    | ['\n'] => [' ']
    | '\n' :: others => others.reverse
    | breaks => breaks.reverse

end Gap

/-- A scalar that was read, and the cursor behind it. -/
structure ScalarRead where
  text : String
  cursor : Cursor
  /-- Whether a line break lies between the last word and the cursor. -/
  broken : Bool := false

def ScalarRead.ofReverse (text : List Char) (cursor : Cursor) (broken : Bool) : ScalarRead :=
  ⟨String.ofList text.reverse, cursor, broken⟩

/-! ## Plain scalars -/

/-- The brackets and commas of flow collections. -/
def isFlowMark (c : Char) : Bool :=
  c == ',' || c == '[' || c == ']' || c == '{' || c == '}'

/-- Whether a colon stands before a mark that makes it unclear. -/
def isUnclearColon (c : Char) (rest : List Char) : Bool :=
  c == ':' && match rest with
    | next :: _ => next == '?' || isFlowMark next
    | [] => false

/-- Whether a plain scalar ends before a character, which starts a word after a gap or not. -/
def endsPlain (flow : Bool) (indent : Nat) (p : Place) (afterGap : Bool) (c : Char)
    (rest : List Char) : Bool :=
  (afterGap && (c == '#' || (!flow && p.column < indent)
      || (p.column == 0 && isDocumentMark (c :: rest))))
    || (c == ':' && isGapAhead rest) || (flow && isFlowMark c)

/-- Reads on in a plain scalar, whose further lines are indented. -/
def plainScalar (flow : Bool) (indent : Nat) (text : List Char) (gap : Gap) (p : Place) :
    List Char → Option ScalarRead
  | [] => some (.ofReverse text ⟨[], p⟩ gap.isBroken)
  | c :: rest =>
    if isBreak c || isSpace c then
      if c == '\t' && gap.isBroken && p.column < indent then none
      else plainScalar flow indent text (gap.push c) (p.after c) rest
    else if endsPlain flow indent p (!gap.isEmpty) c rest then
      some (.ofReverse text ⟨c :: rest, p⟩ gap.isBroken)
    else if flow && isUnclearColon c rest then none
    else plainScalar flow indent (c :: (gap.folded ++ text)) {} (p.after c) rest

/-! ## Quoted scalars -/

/-- The character of an escape with one letter. -/
def escapedChar? : Char → Option Char
  | '0' => some '\x00'
  | 'a' => some '\x07'
  | 'b' => some '\x08'
  | 't' => some '\t'
  | '\t' => some '\t'
  | 'n' => some '\n'
  | 'v' => some '\x0b'
  | 'f' => some '\x0c'
  | 'r' => some '\r'
  | 'e' => some '\x1b'
  | ' ' => some ' '
  | '"' => some '"'
  | '/' => some '/'
  | '\\' => some '\\'
  | 'N' => some '\u0085'
  | '_' => some '\u00a0'
  | 'L' => some '\u2028'
  | 'P' => some '\u2029'
  | _ => none

/-- How many digits follow the letter of an escape by number. -/
def escapeWidth? : Char → Option Nat
  | 'x' => some 2
  | 'u' => some 4
  | 'U' => some 8
  | _ => none

/-- The character of a number that is one. -/
def numberedChar? (n : Nat) : Option Char := if n.isValidChar then some (Char.ofNat n) else none

/-- What an escape needs: nothing more, or so many digits after the number so far. -/
inductive Escape
  | none
  | letter
  | digits (left value : Nat)
deriving DecidableEq, Repr

/-- Reads on in a scalar between single quotes. -/
def singleQuoted (text : List Char) (gap : Gap) (p : Place) : List Char → Option ScalarRead
  | [] => none
  | '\'' :: '\'' :: rest =>
    singleQuoted ('\'' :: (gap.folded ++ text)) {} ((p.after '\'').after '\'') rest
  | c :: rest =>
    if c = '\'' then some (.ofReverse (gap.folded ++ text) ⟨rest, p.after c⟩ false)
    else if isBreak c || isSpace c then singleQuoted text (gap.push c) (p.after c) rest
    else if p.column = 0 ∧ isDocumentMark (c :: rest) then none
    else singleQuoted (c :: (gap.folded ++ text)) {} (p.after c) rest

/-- Reads on in a scalar between double quotes. -/
def doubleQuoted (text : List Char) (gap : Gap) (escape : Escape) (p : Place) :
    List Char → Option ScalarRead
  | [] => none
  | c :: rest =>
    match escape with
    | .letter =>
      if isBreak c then doubleQuoted text { escaped := true } .none (p.after c) rest
      else
        match escapedChar? c, escapeWidth? c with
        | some d, _ => doubleQuoted (d :: text) {} .none (p.after c) rest
        | none, some width => doubleQuoted text {} (.digits width 0) (p.after c) rest
        | none, none => none
    | .digits left value =>
      match Text.hexValue? c with
      | none => none
      | some digit =>
        let value := value * 16 + digit
        if 1 < left then doubleQuoted text {} (.digits (left - 1) value) (p.after c) rest
        else
          match numberedChar? value with
          | some d => doubleQuoted (d :: text) {} .none (p.after c) rest
          | none => none
    | .none =>
      if c = '"' then some (.ofReverse (gap.folded ++ text) ⟨rest, p.after c⟩ false)
      else if isBreak c || isSpace c then doubleQuoted text (gap.push c) .none (p.after c) rest
      else if p.column = 0 ∧ isDocumentMark (c :: rest) then none
      else if c = '\\' then doubleQuoted (gap.folded ++ text) {} .letter (p.after c) rest
      else doubleQuoted (c :: (gap.folded ++ text)) {} .none (p.after c) rest

/-! ## Block scalars -/

/-- What becomes of the line breaks at the end of a block. -/
inductive Chomping
  | strip
  | clip
  | keep
deriving DecidableEq, Repr

/-- The head of a block: how it ends, and by how much it is indented, if that is told. -/
structure BlockHead where
  chomping : Chomping := .clip
  indent : Option Nat := none
deriving DecidableEq, Repr, Inhabited

/-- Reads the sign in a head, if it comes next. -/
def BlockHead.readSign (head : BlockHead) (c : Cursor) : BlockHead × Cursor :=
  match c.rest with
  | '+' :: _ => ({ head with chomping := .keep }, c.skip 1)
  | '-' :: _ => ({ head with chomping := .strip }, c.skip 1)
  | _ => (head, c)

/-- Reads the digit in a head, if it comes next; it must not be zero. -/
def BlockHead.readDigit (head : BlockHead) (c : Cursor) : Option (BlockHead × Cursor) :=
  match c.rest with
  | d :: _ =>
    if d = '0' then none
    else if d.isDigit then some ({ head with indent := some (Text.digitValue d) }, c.skip 1)
    else some (head, c)
  | [] => some (head, c)

/-- Reads a head: a sign and a digit in either order. -/
def BlockHead.read (c : Cursor) : Option (BlockHead × Cursor) := do
  let (signed, afterSign) := ({} : BlockHead).readSign c
  let (head, afterDigit) ← signed.readDigit afterSign
  if afterSign = c ∧ afterDigit ≠ c then return head.readSign afterDigit
  return (head, afterDigit)

/-- Passes over the end of a line that holds nothing more but a comment; gives nothing if it
does. -/
def endOfLine (c : Cursor) : Option Cursor :=
  let c := c.skip (c.rest.takeWhile isSpace).length
  let c :=
    match c.rest with
    | '#' :: _ => c.skip (c.rest.takeWhile (!isBreak ·)).length
    | _ => c
  match c.rest with
  | [] => some c
  | b :: rest => if isBreak b then some ⟨rest, c.place.after b⟩ else none

/-- Empty lines that were passed over: their breaks, last first, and the widest column. -/
structure EmptyLines where
  breaks : List Char := []
  widest : Nat := 0
  cursor : Cursor

/-- Passes over empty lines and the indentation of the line after them. -/
def emptyLines (indent : Option Nat) (breaks : List Char) (widest : Nat) (p : Place) :
    List Char → Option EmptyLines
  | [] => some ⟨breaks, max widest p.column, ⟨[], p⟩⟩
  | c :: rest =>
    let inside :=
      match indent with
      | some n => p.column < n
      | none => true
    if c == ' ' && inside then emptyLines indent breaks widest (p.after c) rest
    else if c == '\t' && inside then none
    else if isBreak c then
      emptyLines indent (c :: breaks) (max widest p.column) (p.after c) rest
    else some ⟨breaks, max widest p.column, ⟨c :: rest, p⟩⟩

/-- The lines of a block so far: the text, the break after its last line, and the empty lines
after that, all last character first. -/
structure BlockText where
  text : List Char := []
  lineBreak : List Char := []
  empty : List Char := []
  /-- Whether the last line begins with a space. -/
  spaced : Bool := false

/-- The text with one more line. -/
def BlockText.push (b : BlockText) (folds : Bool) (line : List Char) : BlockText :=
  let spaced := match line with
    | c :: _ => isSpace c
    | [] => false
  let joined :=
    if folds ∧ b.lineBreak = ['\n'] ∧ !b.spaced ∧ !spaced then
      if b.empty.isEmpty then ' ' :: b.text else b.empty ++ b.text
    else b.empty ++ b.lineBreak ++ b.text
  { text := line.reverse ++ joined, spaced }

def BlockText.close (b : BlockText) : Chomping → List Char
  | .strip => b.text
  | .clip => b.lineBreak ++ b.text
  | .keep => b.empty ++ b.lineBreak ++ b.text

def blockLines (folds : Bool) (indent : Nat) (b : BlockText) (c : Cursor) :
    Option (BlockText × Cursor) :=
  if c.place.column ≠ indent ∨ c.rest = [] then some (b, c)
  else
    let line := c.rest.takeWhile (!isBreak ·)
    let pushed := b.push folds line
    match c.rest.drop line.length with
    | [] => some (pushed, c.skip line.length)
    | lineBreak :: rest =>
      match emptyLines (some indent) [] 0 (c.place.after lineBreak) rest with
      | none => none
      | some lines =>
        if _h : lines.cursor.rest.length < c.rest.length then
          blockLines folds indent { pushed with lineBreak := [lineBreak], empty := lines.breaks }
            lines.cursor
        else none
termination_by c.rest.length

/-- Reads a block behind its indicator, inside a collection that is indented so far. -/
def blockScalar (folds : Bool) (parent : Option Nat) (c : Cursor) : Option ScalarRead := do
  let (head, c) ← BlockHead.read c
  let c ← endOfLine c
  let told := head.indent.map (· + parent.getD 0)
  let lines ← emptyLines told [] 0 c.place c.rest
  let least := match parent with
    | some n => n + 1
    | none => 1
  let indent := told.getD (max lines.widest least)
  let (b, c) ← blockLines folds indent { empty := lines.breaks } lines.cursor
  return .ofReverse (b.close head.chomping) c true

end ClusterAudit.Yaml
