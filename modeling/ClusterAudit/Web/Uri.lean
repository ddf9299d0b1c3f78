-- SUMMARY: Whether a text is the address of a server.
import ClusterAudit.Web.Target

/-!
# Addresses of servers

The address of a server is written with its scheme, or as a host with a port, or
as a path alone. Only its form is looked at here: whether each part is made of
characters that it may hold, and whether the host can be told from its port.
-/

namespace ClusterAudit.Web

/-! ## Hosts -/

def isUriChar (c : Char) : Bool :=
  c.isAlphanum || "!#$&'()*+,-./:;=?@[]_~".toList.contains c

def endsHostPart (c : Char) : Bool := c == '/' || c == '?' || c == '#'

/-- What has been seen of a host with its user and port. -/
structure AuthorityScan where
  colons : Nat := 0
  opened : Bool := false
  closed : Bool := false
  percent : Bool := false
  /-- Whether the last character is the sign behind a user. -/
  afterUser : Bool := false
deriving DecidableEq, Repr, Inhabited

namespace AuthorityScan

/-- So many colons may stand in a host between brackets, with the port behind it. -/
def colonLimit : Nat := 8

/-- Goes on by one character, if it fits. -/
def next (s : AuthorityScan) (c : Char) : Option AuthorityScan :=
  let moved := { s with afterUser := false }
  if c = ':' then
    if s.colons < colonLimit then some { moved with colons := s.colons + 1 } else none
  else if c = '[' then
    if s.percent || s.opened then none else some { moved with opened := true }
  else if c = ']' then
    if !s.opened || s.closed then none
    else some { moved with closed := true, colons := 0, percent := false }
  else if c = '@' then some { s with colons := 0, percent := false, afterUser := true }
  else if c = '%' then some { moved with percent := true }
  else if isUriChar c then some moved
  else none

/-- Whether a host may end here. -/
def isComplete (s : AuthorityScan) : Bool :=
  s.opened == s.closed && s.colons ≤ 1 && !s.afterUser && !s.percent

end AuthorityScan

/-- Whether a text is a host with its user and port. -/
def isAuthority (cs : List Char) : Bool :=
  (cs.foldlM AuthorityScan.next {}).any AuthorityScan.isComplete

/-! ## Schemes -/

def isUriSchemeChar (c : Char) : Bool := c.isAlphanum || c == '+' || c == '-' || c == '.'

/-- A scheme is no longer than this. -/
def schemeLimit : Nat := 64

/-- What stands behind the scheme, if there is a scheme. -/
def afterScheme? (cs : List Char) : Option (List Char) :=
  let scheme := cs.takeWhile isUriSchemeChar
  match cs.drop scheme.length with
  | ':' :: '/' :: '/' :: rest => if scheme.length ≤ schemeLimit then some rest else none
  | _ => none

/-- Whether a text is made as the address of a server is. -/
def isServerForm (cs : List Char) : Bool :=
  match cs with
  | [] => false
  | ['*'] => true
  | '/' :: _ => (sentPart? cs).isSome
  | _ =>
    match afterScheme? cs with
    | none => isAuthority cs && !(cs.any endsHostPart)
    | some rest =>
      let authority := rest.takeWhile (!endsHostPart ·)
      let path := rest.drop authority.length
      !authority.isEmpty && isAuthority authority && (sentPart? path).isSome

def isServerAddress (text : String) : Bool := !isTooLong text && isServerForm text.toList

end ClusterAudit.Web
