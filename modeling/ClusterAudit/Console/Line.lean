-- SUMMARY: Lines for a terminal, made of pieces that may have a colour.
/-!
# Lines

A line is a list of pieces, each of them plain or in a style. Whether styles are
shown is decided only when a line is rendered: a console without colours gets
the same characters, without the sequences that switch colours.
-/

namespace ClusterAudit.Console

/-! ## Styles -/

inductive Colour
  | red
  | green
  | yellow
  | blue
  | magenta
  | cyan
  | grey
deriving DecidableEq, Repr, Inhabited

/-- The number that selects a colour. -/
def Colour.code : Colour → String
  | .red => "31"
  | .green => "32"
  | .yellow => "33"
  | .blue => "34"
  | .magenta => "35"
  | .cyan => "36"
  | .grey => "90"

/-- A colour, which may be bold. -/
structure Style where
  colour : Colour
  bold : Bool := false
deriving DecidableEq, Repr, Inhabited

namespace Style

/-- The sequence that goes back to plain text. -/
def reset : List Char := "\x1b[0m".toList

/-- The sequence that opens a style; bold comes first. -/
def opening (s : Style) : List Char :=
  ("\x1b[" ++ (if s.bold then "1;" else "") ++ s.colour.code ++ "m").toList

/-- A text in which the style is opened again after each reset. -/
def reopen (s : Style) : List Char → List Char
  | '\x1b' :: '[' :: '0' :: 'm' :: rest => reset ++ s.opening ++ s.reopen rest
  | c :: rest => c :: s.reopen rest
  | [] => []

def paint (s : Style) (text : String) : String :=
  String.ofList (s.opening ++ s.reopen text.toList ++ reset)

end Style

/-! ## Lines -/

/-- A part of a line, plain or in a style. -/
structure Piece where
  text : String
  style : Option Style := none
deriving DecidableEq, Repr, Inhabited

namespace Piece

/-- A piece without a style. -/
def plain (text : String) : Piece := { text }

def inColour (colour : Colour) (text : String) : Piece := { text, style := some { colour } }

/-- A bold piece in a colour. -/
def inBold (colour : Colour) (text : String) : Piece :=
  { text, style := some { colour, bold := true } }

def render (coloured : Bool) (p : Piece) : String :=
  match p.style with
  | some style => if coloured then style.paint p.text else p.text
  | none => p.text

end Piece

/-- A line without its end. -/
abbrev Line : Type := List Piece

def renderLine (coloured : Bool) (line : Line) : String :=
  String.join (line.map (Piece.render coloured)) ++ "\n"

/-- The characters of several lines. -/
def render (coloured : Bool) (lines : List Line) : String :=
  String.join (lines.map (renderLine coloured))

end ClusterAudit.Console
