-- SUMMARY: Names of hosts in their ASCII form.
import ClusterAudit.Text.Normal
import ClusterAudit.Web.DomainTable
import ClusterAudit.Web.Punycode

/-!
# Names of hosts

A name of a host is a row of labels between dots. It may be written in any
script; its ASCII form has small letters only, and each label outside ASCII in
punycode after `xn--`. Names that could be mistaken, by their marks, by the
direction of writing or by invisible joiners, have no ASCII form.
-/

namespace ClusterAudit.Web

open ClusterAudit.Text

/-! ## Characters -/

/-- The ASCII characters that no name of a host may hold. -/
def isForbiddenInDomain (c : Char) : Bool :=
  c.toNat ≤ 0x20 || c.toNat == 0x7f
    || ['%', '#', '/', ':', '<', '>', '?', '@', '[', '\\', ']', '^', '|'].contains c

/-- What becomes of a character outside ASCII; none if it is refused. -/
def mapCode (n : Nat) : Option (List Nat) :=
  if refusedSet.has n then none
  else if leftOutSet.has n then some []
  else
    match findRange? expandedRanges n with
    | some range => some range.value
    | none =>
      match findRange? replacedRanges n with
      | some range =>
        if (n - range.first) % range.value.stride = 0 then
          some [range.value.form + (n - range.first)]
        else some [n]
      | none => some [n]

/-- What becomes of a character in a name; none if it is refused. -/
def mapDomainChar (c : Char) : Option (List Char) :=
  if isAscii c then some [asciiLower c] else (mapCode c.toNat).map (·.map Char.ofNat)

/-- Whether a character may stand in a name as it is. -/
def isSettled (c : Char) : Bool := mapDomainChar c == some [c]

/-! ## Directions -/

inductive Direction
  | leftToRight
  | rightToLeft
  | arabicLetter
  | arabicNumber
  | europeanNumber
  | neutral
  | mark
  | other
deriving DecidableEq, Repr

def asciiDirection (c : Char) : Direction :=
  if c.isAlpha then .leftToRight
  else if c.isDigit then .europeanNumber
  else if isForbiddenInDomain c then .other
  else .neutral

def direction (c : Char) : Direction :=
  if isAscii c then asciiDirection c
  else
    match findRange? directionRanges c.toNat with
    | none => .leftToRight
    | some range =>
      match range.value with
      | 1 => .rightToLeft
      | 2 => .arabicLetter
      | 3 => .arabicNumber
      | 4 => .europeanNumber
      | 10 => .mark
      | 11 => .other
      | _ => .neutral

/-- Whether a direction makes a name one that is partly written from right to left. -/
def Direction.turns (d : Direction) : Bool :=
  d == .rightToLeft || d == .arabicLetter || d == .arabicNumber

/-- Whether the directions of a label may stand in a name that is partly written from right to
left. -/
def directionsFit (directions : List Direction) : Bool :=
  let last := (directions.reverse.dropWhile (· == .mark)).head?
  match directions with
  | [] => true
  | .leftToRight :: _ =>
    directions.all (fun d => !d.turns && d != .other)
      && (last == some .leftToRight || last == some .europeanNumber)
  | first :: _ =>
    (first == .rightToLeft || first == .arabicLetter)
      && directions.all (fun d => d != .leftToRight && d != .other)
      && (last == some .rightToLeft || last == some .arabicLetter || last == some .europeanNumber
        || last == some .arabicNumber)
      && !(directions.contains .europeanNumber && directions.contains .arabicNumber)

/-! ## Joiners -/

/-- How a character joins to its neighbours, by the numbers of the table. -/
def joining (c : Char) : Nat :=
  if isAscii c then 0
  else
    match findRange? joiningRanges c.toNat with
    | some range => range.value
    | none => 0

/-- The combining class of the mark that takes away a vowel. -/
def viramaClass : Nat := 9

/-- Whether a non-joiner separates two letters that would join. `before` has the last character
first. -/
def separatesJoined (before after : List Char) : Bool :=
  let left := ((before.dropWhile fun c => joining c == 4).head?.map joining).getD 0
  let right := ((after.dropWhile fun c => joining c == 4).head?.map joining).getD 0
  (left == 1 || left == 2) && (right == 1 || right == 3)

/-- Whether every joiner and non-joiner stands where it shows. `before` has the last character
first. -/
def joinersFit (before : List Char) : List Char → Bool
  | [] => true
  | c :: rest =>
    let afterVirama := (before.head?.map fun b => combiningClass b.toNat == viramaClass).getD false
    (if c.toNat = 0x200d then afterVirama
      else if c.toNat = 0x200c then afterVirama || separatesJoined before rest
      else true)
      && joinersFit (c :: before) rest

/-! ## Labels -/

/-- What stands before a label in punycode. -/
def punycodeMark : List Char := ['x', 'n', '-', '-']

/-- Whether a label of a name may stand as it is. -/
def isLabelFit (label : List Char) : Bool :=
  match label with
  | [] => true
  | c :: _ => (isAscii c || !markSet.has c.toNat) && joinersFit [] label

/-- The label that a label of a mapped name stands for. -/
def readLabel (label : List Char) : Option (List Char) := do
  let plain ←
    if punycodeMark.isPrefixOf label then do
      let decoded ← Punycode.decode (label.drop 4)
      let isWellFormed :=
        !decoded.all isAscii && decoded.all isSettled && !decoded.any isForbiddenInDomain
          && !decoded.contains '.' && normalize decoded == decoded
      if isWellFormed then some decoded else none
    else some label
  if isLabelFit plain then some plain else none

/-- The ASCII form of a label. -/
def writeLabel (label : List Char) : List Char :=
  if label.all isAscii then label else punycodeMark ++ Punycode.encode label

/-- Whether the directions in a name are clear. -/
def directionsClear (labels : List (List Char)) : Bool :=
  let directions := labels.map (·.map direction)
  !directions.any (·.any Direction.turns) || directions.all directionsFit

/-- Whether a name has neither characters outside ASCII nor labels in punycode. -/
def isPlainName (cs : List Char) : Bool :=
  cs.all isAscii
    && !(splitAtChar '.' (cs.map asciiLower)).any fun label => punycodeMark.isPrefixOf label

def domainToAscii? (cs : List Char) : Option (List Char) :=
  if isPlainName cs then
    if cs.any isForbiddenInDomain then none else some (cs.map asciiLower)
  else do
    let mapped ← cs.mapM mapDomainChar
    let name := normalize mapped.flatten
    if name.any isForbiddenInDomain then none
    let labels ← (splitAtChar '.' name).mapM readLabel
    if directionsClear labels then
      some (List.intercalate ['.'] (labels.map writeLabel))
    else none

end ClusterAudit.Web
