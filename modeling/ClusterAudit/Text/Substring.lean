-- SUMMARY: Occurrence of one text inside another.
/-!
# Substrings

One decision procedure for "this text occurs in that one", on lists of
characters and on strings. `occursIn_iff` ties it to the list relation `<:+:`.
-/

namespace ClusterAudit.Text

/-- Whether `needle` occurs in the text as an unbroken run of characters. -/
def occursIn (needle : List Char) : List Char → Bool
  | [] => needle.isEmpty
  | c :: rest => needle.isPrefixOf (c :: rest) || occursIn needle rest

/-- A text occurs in another exactly if it is an infix of it. -/
theorem occursIn_iff {needle text : List Char} :
    occursIn needle text = true ↔ needle <:+: text := by
  induction text with
  | nil => simp [occursIn, List.infix_nil]
  | cons c rest ih => simp [occursIn, ih, List.infix_cons_iff]

def contains (text needle : String) : Bool := occursIn needle.toList text.toList

end ClusterAudit.Text
