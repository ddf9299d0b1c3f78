-- SUMMARY: The composed normal form of a text.
import ClusterAudit.Text.NormalTable
import ClusterAudit.Text.Lowercase

/-!
# Normal form

Texts that look alike may be written with composed characters or with separate
marks. The composed normal form takes every character apart, puts the marks that
follow one character into a fixed order, and composes what can be composed.
-/

namespace ClusterAudit.Text

/-! ## Syllables -/

/-- The first composed Korean syllable. -/
def syllableBase : Nat := 0xac00

/-- How many composed Korean syllables there are. -/
def syllableCount : Nat := 11172

/-- The parts of a Korean syllable. -/
def syllableParts? (n : Nat) : Option (List Nat) :=
  if syllableBase ≤ n ∧ n < syllableBase + syllableCount then
    let place := n - syllableBase
    let start := [0x1100 + place / 588, 0x1161 + place % 588 / 28]
    some (if place % 28 = 0 then start else start ++ [0x11a7 + place % 28])
  else none

/-- The Korean syllable that two parts make. -/
def syllable? (first second : Nat) : Option Nat :=
  if 0x1100 ≤ first ∧ first < 0x1113 ∧ 0x1161 ≤ second ∧ second < 0x1176 then
    some (syllableBase + ((first - 0x1100) * 21 + (second - 0x1161)) * 28)
  else if syllableBase ≤ first ∧ first < syllableBase + syllableCount
      ∧ (first - syllableBase) % 28 = 0 ∧ 0x11a8 ≤ second ∧ second < 0x11c3 then
    some (first + (second - 0x11a7))
  else none

/-! ## Taking apart -/

/-- The combining class of a code point; zero for what does not combine. -/
def combiningClass (n : Nat) : Nat :=
  if n < 0x80 then 0
  else
    match findRange? combiningClasses n with
    | some range => range.value
    | none => 0

/-- All parts of a code point, taken apart at most `fuel` times. -/
def takeApart : Nat → Nat → List Nat
  | 0, n => [n]
  | fuel + 1, n =>
    if n < 0x80 then [n]
    else
      match syllableParts? n with
      | some parts => parts
      | none =>
        match findRange? composedParts n with
        | some ⟨_, _, first :: rest⟩ => takeApart fuel first ++ rest
        | some _ => [n]
        | none =>
          match findRange? dissolvedParts n with
          | some range => range.value
          | none => [n]

/-- Puts a mark before those that follow it, at its place by class. -/
def insertMark (n : Nat) : List Nat → List Nat
  | [] => [n]
  | m :: rest =>
    if combiningClass m ≠ 0 ∧ combiningClass m < combiningClass n then m :: insertMark n rest
    else n :: m :: rest

/-- Puts the marks after each character into order. -/
def orderMarks (codes : List Nat) : List Nat :=
  codes.foldr (fun n rest => if combiningClass n = 0 then n :: rest else insertMark n rest) []

/-! ## Composing -/

def compose? (first second : Nat) : Option Nat :=
  match syllable? first second with
  | some n => some n
  | none =>
    if first < 0x80 ∧ second < 0x80 then none
    else (composedParts.find? fun range => range.value == [first, second]).map (·.first)

/-- Composes a character with what follows it. `between` are the marks that stay behind it, and
`blocked` is the class of the last of them. -/
def composeAfter (starter : Nat) (between : List Nat) (blocked : Nat) : List Nat → List Nat
  | [] => starter :: between
  | n :: rest =>
    let next := combiningClass n
    let isFree := between.isEmpty || blocked < next
    match if isFree then compose? starter n else none with
    | some composed => composeAfter composed between blocked rest
    | none =>
      if next = 0 then starter :: between ++ composeAfter n [] 0 rest
      else composeAfter starter (between ++ [n]) next rest

/-- Composes a text that is taken apart. Marks at its start stay. -/
def composeAll : List Nat → List Nat
  | [] => []
  | n :: rest => if combiningClass n = 0 then composeAfter n [] 0 rest else n :: composeAll rest

def normalize (cs : List Char) : List Char :=
  if cs.all isAscii then cs
  else (composeAll (orderMarks (cs.flatMap fun c => takeApart 4 c.toNat))).map Char.ofNat

end ClusterAudit.Text
