-- SUMMARY: Lower-casing of any text, and search that ignores case.
import ClusterAudit.Text.CaseTable
import ClusterAudit.Text.Substring

/-!
# Lower case

The full lower-case form of a text. It goes character by character with two
exceptions: a capital I with a dot becomes two characters, and a capital sigma
at the end of a word takes its final form, which depends on its neighbours.
-/

namespace ClusterAudit.Text

/-! ## Properties of characters -/

def isAscii (c : Char) : Bool := c.toNat < 0x80

/-- A character with its ASCII capital made small. -/
def asciiLower (c : Char) : Char := if c.isUpper then Char.ofNat (c.toNat + 0x20) else c

def isCased (c : Char) : Bool :=
  if isAscii c then c.isAlpha else casedSet.has c.toNat

/-- The characters that are passed over when the letters around a sigma are looked for. -/
def isCaseIgnorable (c : Char) : Bool :=
  if isAscii c then c == '\'' || c == '.' || c == ':' || c == '^' || c == '`'
  else caseIgnorableSet.has c.toNat

/-! ## Lower-casing -/

/-- The lower-case form of a code point outside ASCII. -/
def lowerCodePoint (n : Nat) : Nat :=
  match findRange? lowerRules n with
  | some rule =>
    if (n - rule.first) % rule.value.stride = 0 then rule.value.form + (n - rule.first) else n
  | none => n

def capitalSigma : Char := 'Σ'

/-- The lower-case form of a character that is no capital sigma. -/
def lowerChar (c : Char) : List Char :=
  if isAscii c then [asciiLower c]
  else if c = 'İ' then ['i', Char.ofNat 0x307]
  else [Char.ofNat (lowerCodePoint c.toNat)]

/-- Whether the first character that is not passed over has a case. -/
def meetsCased (cs : List Char) : Bool :=
  match cs.dropWhile isCaseIgnorable with
  | c :: _ => isCased c
  | [] => false

/-- The small sigma between what stands before it, last character first, and after it. -/
def smallSigma (before after : List Char) : Char :=
  if meetsCased before && !meetsCased after then 'ς' else 'σ'

/-- Lower-cases a text that follows the characters of `before`, last character first. -/
def lowerAfter (before : List Char) : List Char → List Char
  | [] => []
  | c :: rest =>
    (if c = capitalSigma then [smallSigma before rest] else lowerChar c)
      ++ lowerAfter (c :: before) rest

def lower (cs : List Char) : List Char := lowerAfter [] cs

/-- Whether `needle` occurs in `text` once both are lower-cased. -/
def containsIgnoreCase (text needle : String) : Bool :=
  occursIn (lower needle.toList) (lower text.toList)

end ClusterAudit.Text
