-- SUMMARY: A text in quotes, with every character that cannot be shown written as a number.
import ClusterAudit.Text.PrintableTable

/-!
# Quoted text

The form in which a text is quoted inside a message: between double quotes, with
the quote, the backslash and the usual controls escaped by a letter, and each
character that has no look of its own written as `\u{hex}`.
-/

namespace ClusterAudit.Text

/-- The lower-case hexadecimal digits of a number, without leading zeros. -/
def hexDigits (n : Nat) : List Char := Nat.toDigits 16 n

def needsNumber (c : Char) : Bool :=
  let n := c.toNat
  if n < 0x7f then n < 0x20
  else if n < 0xa0 then true
  else unshownSet.has n || graphemeExtendSet.has n

def quoteChar (c : Char) : List Char :=
  if c = '"' then ['\\', '"']
  else if c = '\\' then ['\\', '\\']
  else if c = '\n' then ['\\', 'n']
  else if c = '\r' then ['\\', 'r']
  else if c = '\t' then ['\\', 't']
  else if c.toNat = 0 then ['\\', '0']
  else if needsNumber c then '\\' :: 'u' :: '{' :: (hexDigits c.toNat ++ ['}'])
  else [c]

def quoted (s : String) : String := String.ofList ('"' :: (s.toList.flatMap quoteChar ++ ['"']))

end ClusterAudit.Text
