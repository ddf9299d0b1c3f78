-- SUMMARY: The values that a YAML text stands for.
import ClusterAudit.Yaml.Token

/-!
# Values

A text is a sequence of documents, and a document is a value: a scalar, a list or
a map. A plain scalar is null, a truth value or a number if it looks like one, and
a text otherwise.

The tokens are read by recursive descent. No more than four calls are nested before
a token is read, so four times as much fuel as there are tokens is always enough.
-/

namespace ClusterAudit.Yaml

/-! ## Values -/

/-- A value in a document. Of a number only its digits are kept. -/
inductive Value
  | null
  | bool (b : Bool)
  | number (digits : String)
  | text (s : String)
  | list (items : List Value)
  | map (members : List (Value × Value))
deriving Repr, Inhabited

namespace Value

/-- Whether two values are the same scalar. -/
def isSameScalar : Value → Value → Bool
  | .null, .null => true
  | .bool a, .bool b => a == b
  | .number a, .number b => a == b
  | .text a, .text b => a == b
  | _, _ => false

/-- Whether no scalar is the key of two members. -/
def hasDistinctKeys : List (Value × Value) → Bool
  | [] => true
  | (key, _) :: rest => !(rest.any fun member => key.isSameScalar member.1) && hasDistinctKeys rest

end Value

/-! ## Plain scalars -/

/-- Whether there are digits, and nothing else. -/
def isDigits (isOne : Char → Bool) (cs : List Char) : Bool := !cs.isEmpty && cs.all isOne

/-- A number without its sign. -/
def unsigned : List Char → List Char
  | '+' :: rest => rest
  | '-' :: rest => rest
  | cs => cs

/-- Whether a text without sign is an integer in another base. -/
def isBased : List Char → Bool
  | '0' :: 'x' :: rest => isDigits (fun c => (Text.hexValue? c).isSome) rest
  | '0' :: 'o' :: rest => isDigits (fun c => '0' ≤ c && c ≤ '7') rest
  | '0' :: 'b' :: rest => isDigits (fun c => c == '0' || c == '1') rest
  | _ => false

/-- Whether a text is an exponent, or nothing at all. -/
def isExponent : List Char → Bool
  | [] => true
  | 'e' :: rest => isDigits Char.isDigit (unsigned rest)
  | 'E' :: rest => isDigits Char.isDigit (unsigned rest)
  | _ => false

/-- Whether a text without sign is a decimal number, with digits before or after the point. -/
def isDecimal (cs : List Char) : Bool :=
  let whole := cs.takeWhile Char.isDigit
  match cs.drop whole.length with
  | '.' :: rest =>
    let fraction := rest.takeWhile Char.isDigit
    !(whole.isEmpty && fraction.isEmpty) && isExponent (rest.drop fraction.length)
  | rest => !whole.isEmpty && isExponent rest

/-- The names of numbers that are not finite; they may carry a sign. -/
def infiniteNames : List String := [".inf", ".Inf", ".INF"]

def undefinedNames : List String := [".nan", ".NaN", ".NAN"]

/-- Whether a plain scalar is a number. Digits behind a leading zero are none. -/
def isNumber (cs : List Char) : Bool :=
  let digits := unsigned cs
  let text := String.ofList digits
  let isPadded := 1 < digits.length && digits.head? == some '0' && digits.all Char.isDigit
  (isBased digits || isDecimal digits || infiniteNames.contains text) && !isPadded
    || undefinedNames.contains (String.ofList cs)

def nullNames : List String := ["", "~", "null", "Null", "NULL"]

def trueNames : List String := ["true", "True", "TRUE"]

def falseNames : List String := ["false", "False", "FALSE"]

def Value.ofPlain (s : String) : Value :=
  if nullNames.contains s then .null
  else if trueNames.contains s then .bool true
  else if falseNames.contains s then .bool false
  else if isNumber s.toList then .number s
  else .text s

/-! ## Tags -/

/-- The handles of tags in a document, with what they stand for. -/
abbrev Handles : Type := List (String × String)

/-- The handles that are always there. -/
def standardHandles : Handles := [("!", "!"), ("!!", "tag:yaml.org,2002:")]

/-- The tag that a handle and a suffix stand for, if the handle is known. -/
def fullTag? (handles : Handles) (handle suffix : String) : Option String :=
  if handle = "" then some suffix
  else ((handles ++ standardHandles).find? (·.1 == handle)).map fun found => found.2 ++ suffix

/-- The value of a scalar under a tag, if they fit. -/
def Value.ofTagged? (tag s : String) (plain : Bool) : Option Value :=
  let value := Value.ofPlain s
  if tag = "tag:yaml.org,2002:null" then
    match value with
    | .null => if s = "" then none else some .null
    | _ => none
  else if tag = "tag:yaml.org,2002:bool" then
    match value with
    | .bool b => some (.bool b)
    | _ => none
  else if tag = "tag:yaml.org,2002:int" ∨ tag = "tag:yaml.org,2002:float" then
    match value with
    | .number digits => some (.number digits)
    | _ => none
  else if tag = "tag:yaml.org,2002:str" ∨ tag = "!" then some (.text s)
  else if plain then some value
  else some (.text s)

/-! ## Reading -/

/-- What is left to read, and the values that have a name. -/
structure Feed where
  tokens : List Token
  anchors : List (String × Value) := []
  handles : Handles := []

abbrev ValueRead : Type := Option (Value × Feed)

/-- What is written before a value: its name and its tag. -/
structure Properties where
  anchor : Option String := none
  tag : Option String := none
deriving DecidableEq, Repr, Inhabited

def Properties.isEmpty (p : Properties) : Bool := p.anchor.isNone && p.tag.isNone

/-- Reads properties: a name and a tag, each at most once, in either order. -/
def readProperties (feed : Feed) : Option (Properties × Feed) :=
  match feed.tokens with
  | .anchor name :: .tag handle suffix :: rest =>
    (fullTag? feed.handles handle suffix).map fun tag =>
      ({ anchor := some name, tag := some tag }, { feed with tokens := rest })
  | .tag handle suffix :: .anchor name :: rest =>
    (fullTag? feed.handles handle suffix).map fun tag =>
      ({ anchor := some name, tag := some tag }, { feed with tokens := rest })
  | .anchor name :: rest => some ({ anchor := some name }, { feed with tokens := rest })
  | .tag handle suffix :: rest =>
    (fullTag? feed.handles handle suffix).map fun tag =>
      ({ tag := some tag }, { feed with tokens := rest })
  | _ => some ({}, feed)

/-- Gives a value its name. -/
def Properties.bind (p : Properties) (value : Value) (feed : Feed) : Value × Feed :=
  match p.anchor with
  | some name => (value, { feed with anchors := (name, value) :: feed.anchors })
  | none => (value, feed)

/-- Which values may stand at a place. -/
inductive Position
  | flow
  | block
  /-- A block in a map, where a list may be as far in as the map itself. -/
  | member
deriving DecidableEq, Repr

/-- Whether a token ends an item of a list that is as far in as its map. -/
def endsSameColumnItem : List Token → Bool
  | .blockEntry :: _ => true
  | .key :: _ => true
  | .value :: _ => true
  | .blockEnd :: _ => true
  | _ => false

/-- Whether a token ends an item of a block list. -/
def endsItem : List Token → Bool
  | .blockEntry :: _ => true
  | .blockEnd :: _ => true
  | _ => false

/-- Whether a token ends a key or a value of a block map. -/
def endsMember : List Token → Bool
  | .key :: _ => true
  | .value :: _ => true
  | .blockEnd :: _ => true
  | _ => false

/-- Whether a token ends the key of a flow collection. -/
def endsFlowKey : List Token → Bool
  | .value :: _ => true
  | .flowEntry :: _ => true
  | .flowSequenceEnd :: _ => true
  | .flowMappingEnd :: _ => true
  | _ => false

/-- The map of members, if no key comes twice. -/
def mapOf (members : List (Value × Value)) (feed : Feed) : ValueRead :=
  if Value.hasDistinctKeys members then some (.map members, feed) else none

mutual

/-- Reads a value, nested in fewer than `depth` collections. -/
def readValue (fuel depth : Nat) (position : Position) (feed : Feed) : ValueRead :=
  match fuel with
  | 0 => none
  | fuel + 1 =>
    match feed.tokens with
    | .alias name :: rest =>
      (feed.anchors.find? (·.1 == name)).map fun found => (found.2, { feed with tokens := rest })
    | _ => do
      let (properties, feed) ← readProperties feed
      let (value, feed) ← readContent fuel depth position properties feed
      return properties.bind value feed

/-- Reads a value behind its properties. -/
def readContent (fuel depth : Nat) (position : Position) (properties : Properties)
    (feed : Feed) : ValueRead :=
  match fuel with
  | 0 => none
  | fuel + 1 =>
    match feed.tokens with
    | .scalar s plain :: rest => do
      let value ←
        match properties.tag with
        | some tag => Value.ofTagged? tag s plain
        | none => some (if plain then Value.ofPlain s else .text s)
      return (value, { feed with tokens := rest })
    | .flowSequence :: rest =>
      if depth = 0 then none
      else readFlowList fuel (depth - 1) [] false { feed with tokens := rest }
    | .flowMapping :: rest =>
      if depth = 0 then none
      else readFlowMap fuel (depth - 1) [] false { feed with tokens := rest }
    | .blockSequence :: rest =>
      if depth = 0 ∨ position = .flow then none
      else readList fuel (depth - 1) false [] { feed with tokens := rest }
    | .blockMapping :: rest =>
      if depth = 0 ∨ position = .flow then none
      else readMap fuel (depth - 1) [] { feed with tokens := rest }
    | .blockEntry :: _ =>
      if depth = 0 ∨ position ≠ .member then none else readList fuel (depth - 1) true [] feed
    | _ =>
      if properties.isEmpty then none
      else
        match properties.tag with
        | some tag => (Value.ofTagged? tag "" false).map fun value => (value, feed)
        | none => some (.null, feed)

/-- Reads a value, unless the token that comes next shows that it is left out. -/
def readOptional (fuel depth : Nat) (position : Position) (isOmitted : List Token → Bool)
    (feed : Feed) : ValueRead :=
  match fuel with
  | 0 => none
  | fuel + 1 =>
    if isOmitted feed.tokens then some (.null, feed) else readValue fuel depth position feed

/-- Reads the items of a block list, which ends by itself if it is as far in as its map. -/
def readList (fuel depth : Nat) (sameColumn : Bool) (items : List Value) (feed : Feed) :
    ValueRead :=
  match fuel with
  | 0 => none
  | fuel + 1 =>
    match feed.tokens with
    | .blockEntry :: rest => do
      let isOmitted := if sameColumn then endsSameColumnItem else endsItem
      let (item, feed) ← readOptional fuel depth .block isOmitted { feed with tokens := rest }
      readList fuel depth sameColumn (item :: items) feed
    | tokens =>
      if sameColumn then some (.list items.reverse, feed)
      else
        match tokens with
        | .blockEnd :: rest => some (.list items.reverse, { feed with tokens := rest })
        | _ => none

/-- Reads the members of a block map. -/
def readMap (fuel depth : Nat) (members : List (Value × Value)) (feed : Feed) : ValueRead :=
  match fuel with
  | 0 => none
  | fuel + 1 =>
    match feed.tokens with
    | .blockEnd :: rest => mapOf members.reverse { feed with tokens := rest }
    | .key :: rest => do
      let (key, feed) ← readOptional fuel depth .member endsMember { feed with tokens := rest }
      let (value, feed) ← readMemberValue fuel depth feed
      readMap fuel depth ((key, value) :: members) feed
    | _ => none

/-- Reads the value of a member of a block map. -/
def readMemberValue (fuel depth : Nat) (feed : Feed) : ValueRead :=
  match fuel with
  | 0 => none
  | fuel + 1 =>
    match feed.tokens with
    | .value :: rest => readOptional fuel depth .member endsMember { feed with tokens := rest }
    | _ => some (.null, feed)

/-- Reads the items of a flow list, before each of which but the first there is a comma. -/
def readFlowList (fuel depth : Nat) (items : List Value) (separated : Bool) (feed : Feed) :
    ValueRead :=
  match fuel with
  | 0 => none
  | fuel + 1 =>
    match feed.tokens with
    | .flowSequenceEnd :: rest => some (.list items.reverse, { feed with tokens := rest })
    | .flowEntry :: rest =>
      if items.isEmpty ∨ separated then none
      else readFlowList fuel depth items true { feed with tokens := rest }
    | .key :: rest => do
      if !(items.isEmpty || separated) then none
      let (key, feed) ← readOptional fuel depth .flow endsFlowKey { feed with tokens := rest }
      let (value, feed) ← readFlowValue fuel depth feed
      if depth = 0 then none
      readFlowList fuel depth (.map [(key, value)] :: items) false feed
    | _ => do
      if !(items.isEmpty || separated) then none
      let (item, feed) ← readValue fuel depth .flow feed
      readFlowList fuel depth (item :: items) false feed

/-- Reads the members of a flow map, before each of which but the first there is a comma. -/
def readFlowMap (fuel depth : Nat) (members : List (Value × Value)) (separated : Bool)
    (feed : Feed) : ValueRead :=
  match fuel with
  | 0 => none
  | fuel + 1 =>
    match feed.tokens with
    | .flowMappingEnd :: rest => mapOf members.reverse { feed with tokens := rest }
    | .flowEntry :: rest =>
      if members.isEmpty ∨ separated then none
      else readFlowMap fuel depth members true { feed with tokens := rest }
    | .key :: rest => do
      if !(members.isEmpty || separated) then none
      let (key, feed) ← readOptional fuel depth .flow endsFlowKey { feed with tokens := rest }
      let (value, feed) ← readFlowValue fuel depth feed
      readFlowMap fuel depth ((key, value) :: members) false feed
    | _ => do
      if !(members.isEmpty || separated) then none
      let (key, feed) ← readValue fuel depth .flow feed
      readFlowMap fuel depth ((key, .null) :: members) false feed

/-- Reads the value of a member of a flow collection. -/
def readFlowValue (fuel depth : Nat) (feed : Feed) : ValueRead :=
  match fuel with
  | 0 => none
  | fuel + 1 =>
    match feed.tokens with
    | .value :: rest => readOptional fuel depth .flow endsFlowKey { feed with tokens := rest }
    | _ => some (.null, feed)

end

/-! ## Documents -/

/-- How deep collections may be nested. -/
def nestingLimit : Nat := 128

/-- The fuel for so many tokens. -/
def fuelFor (tokens : List Token) : Nat := 4 * tokens.length + 8

/-- What stands before a document: its handles, and whether its version is told. -/
structure Preamble where
  handles : Handles := []
  versioned : Bool := false

/-- Reads the directives before a document. -/
def readPreamble (preamble : Preamble) : List Token → Option (Preamble × List Token)
  | .version :: rest =>
    if preamble.versioned then none else readPreamble { preamble with versioned := true } rest
  | .handle name replacement :: rest =>
    if preamble.handles.any (·.1 == name) then none
    else
      readPreamble { preamble with handles := (name, replacement) :: preamble.handles } rest
  | tokens => some (preamble, tokens)

/-- Whether a token shows that a document is empty. -/
def endsDocument : List Token → Bool
  | [] => true
  | .version :: _ => true
  | .handle _ _ :: _ => true
  | .documentStart :: _ => true
  | .documentEnd :: _ => true
  | _ => false

/-- Reads a document. Only the first one may do without a mark in front of it. -/
def readDocument (first : Bool) (tokens : List Token) : Option (Value × List Token) := do
  let (preamble, afterPreamble) ← readPreamble {} tokens
  let fuel := fuelFor tokens
  let isBare := preamble.handles.isEmpty && !preamble.versioned
  let (value, feed) ←
    match afterPreamble with
    | .documentStart :: rest =>
      readOptional fuel nestingLimit .block endsDocument
        { tokens := rest, handles := preamble.handles }
    | other =>
      if first && isBare then readValue fuel nestingLimit .block { tokens := other } else none
  return (value, feed.tokens)

/-- Passes over marks of the end of a document. -/
def skipEndMarks : List Token → List Token
  | .documentEnd :: rest => skipEndMarks rest
  | tokens => tokens

def readDocuments (first : Bool) (tokens : List Token) : Option (List Value) :=
  let start := if first then tokens else skipEndMarks tokens
  if start = [] then some []
  else do
    let (value, rest) ← readDocument first start
    if _h : rest.length < tokens.length then
      return value :: (← readDocuments false rest)
    else none
termination_by tokens.length

def documents? (text : List Char) : Option (List Value) :=
  (tokens? text).bind (readDocuments true)

end ClusterAudit.Yaml
