-- SUMMARY: Percent-encoding of texts by sets of characters, and its decoding to bytes.
import ClusterAudit.Text.Digit
import ClusterAudit.Text.Lowercase
import ClusterAudit.Text.Utf8

/-!
# Percent-encoding

A byte that may not stand for itself is written as a percent sign and two
hexadecimal digits. Which ASCII characters may stand for themselves depends on
the place; characters outside ASCII never do.
-/

namespace ClusterAudit.Web

/-- The written form of a byte. -/
def percentByte (b : UInt8) : List Char :=
  ['%', Text.upperHexDigit (b.toNat / 16), Text.upperHexDigit (b.toNat % 16)]

/-- A character as it is written where the ASCII characters of `escaped` may not stand for
themselves. -/
def percentChar (escaped : Char → Bool) (c : Char) : List Char :=
  if Text.isAscii c && !escaped c then [c] else (Utf8.encodeChar c).flatMap percentByte

/-- A text as it is written where the ASCII characters of `escaped` may not stand for
themselves. -/
def percentEncode (escaped : Char → Bool) (cs : List Char) : List Char :=
  cs.flatMap (percentChar escaped)

/-- The bytes that a text stands for. A percent sign without two digits stands for itself. -/
def percentDecode : List Char → Utf8.Bytes
  | [] => []
  | '%' :: a :: b :: rest =>
    match Text.hexValue? a, Text.hexValue? b with
    | some m, some n => UInt8.ofNat (m * 16 + n) :: percentDecode rest
    | _, _ => 0x25 :: percentDecode (a :: b :: rest)
  | c :: rest => Utf8.encodeChar c ++ percentDecode rest

/-! ## The sets of an address -/

def isControl (c : Char) : Bool := c.toNat < 0x20 || c.toNat == 0x7f

/-- Whether a character is one of a text. -/
def isOneOf (marks : List Char) (c : Char) : Bool := marks.contains c

def inFragment (c : Char) : Bool := isControl c || isOneOf [' ', '"', '<', '>', '`'] c

def inPath (c : Char) : Bool := inFragment c || isOneOf ['#', '?', '{', '}'] c

/-- Escaped in a user name or a password. -/
def inUserinfo (c : Char) : Bool :=
  inPath c || isOneOf ['/', ':', ';', '=', '@', '[', '\\', ']', '^', '|'] c

def inQuery (c : Char) : Bool := isControl c || isOneOf [' ', '"', '#', '<', '>'] c

/-- Escaped in the query of an address of the web. -/
def inWebQuery (c : Char) : Bool := inQuery c || c == '\''

end ClusterAudit.Web
