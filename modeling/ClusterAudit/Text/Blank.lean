-- SUMMARY: Blank characters, and the removal of blanks around a text.
/-!
# Blank text

The characters that count as blank, and the trimming of a text at either end.
Trimming is used wherever a value may carry the line break of the tool that
wrote it.
-/

namespace ClusterAudit.Text

/-- The characters with the Unicode property White_Space. -/
def isBlank (c : Char) : Bool :=
  let n := c.toNat
  (9 ≤ n && n ≤ 13) || n == 0x20 || n == 0x85 || n == 0xa0 || n == 0x1680
    || (0x2000 ≤ n && n ≤ 0x200a) || n == 0x2028 || n == 0x2029 || n == 0x202f
    || n == 0x205f || n == 0x3000

/-- The text from its first character that is not blank. -/
def trimStart (cs : List Char) : List Char := cs.dropWhile isBlank

/-- The text up to its last character that does not satisfy `p`. -/
def dropEndWhile (p : Char → Bool) (cs : List Char) : List Char :=
  (cs.reverse.dropWhile p).reverse

/-- The text without blanks at either end. -/
def trim (cs : List Char) : List Char := dropEndWhile isBlank (trimStart cs)

/-- Whether every character is blank; true of the empty text. -/
def isBlankText (cs : List Char) : Bool := cs.all isBlank

end ClusterAudit.Text
