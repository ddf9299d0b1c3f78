-- SUMMARY: Sets and maps of code points, written as ranges in hexadecimal.
import ClusterAudit.Text.Digit

/-!
# Code points

Tables over code points are written as lines of hexadecimal ranges, such as
`300-36F 483-489`, in ascending order, and searched by halving. They are made
for the characters outside ASCII; whoever asks about an ASCII character answers
without a table.
-/

namespace ClusterAudit.Text

/-! ## Written numbers -/

/-- The number that hexadecimal digits stand for; any other character counts as zero. -/
def hexNumber (digits : List Char) : Nat :=
  digits.foldl (fun n c => n * 16 + (hexValue? c).getD 0) 0

/-- The parts of a text between the characters `mark`. -/
def splitAtChar (mark : Char) (cs : List Char) : List (List Char) :=
  cs.foldr
    (fun c parts =>
      if c = mark then [] :: parts
      else
        match parts with
        | part :: rest => (c :: part) :: rest
        | [] => [[c]])
    [[]]

def tableWords (lines : List String) : List (List Char) :=
  lines.flatMap fun line => splitAtChar ' ' line.toList

/-! ## Ranges -/

/-- A range of code points with what the table says about them. -/
structure CodeRange (α : Type) where
  first : Nat
  last : Nat
  value : α
deriving Inhabited

/-- Reads `first-last`, or a single code point. -/
def readRange {α : Type} (word : List Char) (value : α) : CodeRange α :=
  match splitAtChar '-' word with
  | [first, last] => ⟨hexNumber first, hexNumber last, value⟩
  | _ => ⟨hexNumber word, hexNumber word, value⟩

/-- Searches the part of ascending ranges from `low` below `high`. -/
def searchRanges {α : Type} (ranges : Array (CodeRange α)) (n : Nat) :
    Nat → Nat → Nat → Option (CodeRange α)
  | 0, _, _ => none
  | fuel + 1, low, high =>
    if low < high then
      let middle := (low + high) / 2
      match ranges[middle]? with
      | none => none
      | some range =>
        if n < range.first then searchRanges ranges n fuel low middle
        else if range.last < n then searchRanges ranges n fuel (middle + 1) high
        else some range
    else none

/-- The range that holds a code point. -/
def findRange? {α : Type} (ranges : Array (CodeRange α)) (n : Nat) : Option (CodeRange α) :=
  searchRanges ranges n (ranges.size + 1) 0 ranges.size

structure CodePointSet where
  ranges : Array (CodeRange Unit)

def CodePointSet.ofLines (lines : List String) : CodePointSet :=
  ⟨((tableWords lines).map (readRange · ())).toArray⟩

def CodePointSet.has (set : CodePointSet) (n : Nat) : Bool := (findRange? set.ranges n).isSome

end ClusterAudit.Text
