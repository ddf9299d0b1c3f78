-- SUMMARY: Targets of requests: paths and queries that may be sent as they are.
import ClusterAudit.Text.Utf8

/-!
# Targets

The target of a request is a path, and a query after a question mark. Names go
into it as they are, so a target may hold a character that cannot be sent, or a
hash, from which on nothing is sent. A target that is too long is refused before
its characters are looked at.
-/

namespace ClusterAudit.Web

/-- So many bytes may be in an address or a target. -/
def addressLimit : Nat := 65534

/-- Whether a text is too long for an address or a target. -/
def isTooLong (text : String) : Bool := addressLimit < (Utf8.encode text.toList).length

/-- Why a text is no target that can be sent. -/
inductive TargetFault
  | tooLong
  | invalidCharacter
deriving DecidableEq, Repr

def TargetFault.message : TargetFault → String
  | .tooLong => "uri too long"
  | .invalidCharacter => "invalid uri character"

def isPathChar (c : Char) : Bool :=
  let n := c.toNat
  n == 0x21 || n == 0x22 || (0x24 ≤ n && n ≤ 0x3b) || n == 0x3d || (0x40 ≤ n && n ≤ 0x5f)
    || 0x61 ≤ n

def isQueryChar (c : Char) : Bool :=
  let n := c.toNat
  n == 0x21 || (0x24 ≤ n && n ≤ 0x3b) || n == 0x3d || 0x3f ≤ n

/-- What is sent of a path with its query, if it can be sent. -/
def sentPart? (cs : List Char) : Option (List Char) :=
  let sent := cs.takeWhile (· != '#')
  let path := sent.takeWhile (· != '?')
  let query := sent.drop (path.length + 1)
  if path.all isPathChar && query.all isQueryChar then some sent else none

def readTarget (text : String) : Except TargetFault String :=
  if isTooLong text then .error .tooLong
  else
    match sentPart? text.toList with
    | some sent => .ok (String.ofList sent)
    | none => .error .invalidCharacter

def targetPath (target : String) : String := String.ofList (target.toList.takeWhile (· != '?'))

end ClusterAudit.Web
