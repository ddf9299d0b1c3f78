-- SUMMARY: Forms, as they are sent in a body or a query.
import ClusterAudit.Web.Percent

/-!
# Forms

A form is a list of names with values. Letters, digits and four marks stand for
themselves, a space becomes a plus sign, and everything else is percent-encoded.
-/

namespace ClusterAudit.Web

/-- The ASCII characters that stand for themselves in a form. -/
def isFormPlain (c : Char) : Bool :=
  c.isAlphanum || isOneOf ['*', '-', '.', '_'] c

def formChar (c : Char) : List Char :=
  if c = ' ' then ['+'] else percentChar (fun c => !isFormPlain c) c

def formText (cs : List Char) : List Char := cs.flatMap formChar

def formPair (pair : String × String) : List Char :=
  formText pair.1.toList ++ '=' :: formText pair.2.toList

def formEncode (pairs : List (String × String)) : String :=
  String.ofList (List.intercalate ['&'] (pairs.map formPair))

/-! ## Reading -/

def formBytes (cs : List Char) : Utf8.Bytes :=
  percentDecode (cs.map fun c => if c = '+' then ' ' else c)

/-- The text before the first `mark`, and the text after it. -/
def splitOnce (mark : Char) (cs : List Char) : List Char × List Char :=
  (cs.takeWhile (· != mark), (cs.dropWhile (· != mark)).drop 1)

/-- The names and values of a form, as bytes. Empty parts are no pairs. -/
def formDecode (cs : List Char) : List (Utf8.Bytes × Utf8.Bytes) :=
  ((Text.splitAtChar '&' cs).filter (· != [])).map fun part =>
    let (name, value) := splitOnce '=' part
    (formBytes name, formBytes value)

end ClusterAudit.Web
