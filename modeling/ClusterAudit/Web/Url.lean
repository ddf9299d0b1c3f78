-- SUMMARY: Addresses of resources: reading and writing.
import ClusterAudit.Web.Host

/-!
# Addresses

An address has a scheme, and after it an authority with user, host and port, a
path, a query and a fragment. Reading puts every part into its one written form;
the schemes of the web have rules of their own, above all that a backslash is as
good as a slash and that there is always a host. Main statement: an address is
written as the text of its parts, `Url.text`.
-/

namespace ClusterAudit.Web

/-! ## Parts -/

inductive SchemeKind
  | web
  | file
  | other
deriving DecidableEq, Repr

def schemeKind (scheme : String) : SchemeKind :=
  if ["http", "https", "ws", "wss", "ftp"].contains scheme then .web
  else if scheme = "file" then .file
  else .other

/-- The port that a scheme uses when none is given. -/
def defaultPort? (scheme : String) : Option Nat :=
  if scheme = "http" ∨ scheme = "ws" then some 80
  else if scheme = "https" ∨ scheme = "wss" then some 443
  else if scheme = "ftp" then some 21
  else none

/-- User, host and port of an address. -/
structure Authority where
  username : String := ""
  password : String := ""
  host : Option Host := none
  port : Option Nat := none
deriving DecidableEq, Repr, Inhabited

/-- An address. -/
structure Url where
  scheme : String
  authority : Option Authority
  path : String
  query : Option String
  fragment : Option String
deriving DecidableEq, Repr, Inhabited

namespace Authority

/-- User and password as they stand in an address. -/
def userinfo (a : Authority) : String :=
  if a.username = "" ∧ a.password = "" then ""
  else a.username ++ (if a.password = "" then "" else ":" ++ a.password) ++ "@"

def text (a : Authority) : String :=
  a.userinfo ++ (a.host.map Host.text).getD ""
    ++ match a.port with
      | some port => s!":{port}"
      | none => ""

end Authority

namespace Url

def host (u : Url) : Option Host := u.authority.bind Authority.host

def port (u : Url) : Option Nat := u.authority.bind Authority.port

/-- Path, query and fragment. -/
def tail (u : Url) : String :=
  u.path ++ (u.query.map ("?" ++ ·)).getD "" ++ (u.fragment.map ("#" ++ ·)).getD ""

def text (u : Url) : String :=
  u.scheme ++ ":" ++ (u.authority.map fun a => "//" ++ a.text).getD "" ++ u.tail

end Url

/-! ## Scheme -/

/-- Characters around an address that do not belong to it. -/
def isOuterBlank (c : Char) : Bool := c.toNat ≤ 0x20

/-- The characters of an address: without blanks around it, and without tabs and line breaks. -/
def urlCharacters (text : List Char) : List Char :=
  let start := text.dropWhile isOuterBlank
  ((start.reverse.dropWhile isOuterBlank).reverse).filter fun c => !isOneOf ['\t', '\n', '\r'] c

/-- The characters of a scheme after its first letter. -/
def isSchemeChar (c : Char) : Bool :=
  c.isAlphanum || isOneOf ['+', '-', '.'] c

/-- The scheme, in small letters, and what follows its colon. -/
def readScheme? (cs : List Char) : Option (String × List Char) :=
  match cs with
  | c :: _ =>
    if c.isAlpha then
      match cs.dropWhile isSchemeChar with
      | ':' :: rest => some (String.ofList ((cs.takeWhile isSchemeChar).map Text.asciiLower), rest)
      | _ => none
    else none
  | [] => none

/-! ## Authority -/

/-- Whether a character is a slash under the rules of a kind of scheme. -/
def isSlash (kind : SchemeKind) (c : Char) : Bool := c == '/' || (c == '\\' && kind != .other)

def endsAuthority (kind : SchemeKind) (c : Char) : Bool := isSlash kind c || c == '?' || c == '#'

/-- What stands before and after the last `@` of a text. -/
def splitLastAt? (cs : List Char) : Option (List Char × List Char) :=
  if cs.contains '@' then
    let after := (cs.reverse.takeWhile (· != '@')).reverse
    some (cs.take (cs.length - after.length - 1), after)
  else none

/-- User name and password, as they are written. -/
def readUserinfo (cs : List Char) : String × String :=
  let encode (cs : List Char) := String.ofList (percentEncode inUserinfo cs)
  (encode (cs.takeWhile (· != ':')), encode ((cs.dropWhile (· != ':')).drop 1))

/-- The characters of the host, up to the colon of the port. A colon in brackets belongs to the
host. -/
def hostCharacters (kind : SchemeKind) (inBrackets : Bool) : List Char → List Char
  | [] => []
  | c :: rest =>
    if (c = ':' ∧ !inBrackets) ∨ endsAuthority kind c then []
    else c :: hostCharacters kind ((inBrackets || c == '[') && c != ']') rest

/-- Reads the digits of a port, up to the end of the authority. -/
def readPort (port : Option Nat) : List Char → Except UrlFault (Option Nat × List Char)
  | [] => .ok (port, [])
  | c :: rest =>
    if c.isDigit then
      let n := port.getD 0 * 10 + Text.digitValue c
      if 65535 < n then .error .invalidPort else readPort (some n) rest
    else if isOneOf ['/', '\\', '?', '#'] c then .ok (port, c :: rest)
    else .error .invalidPort

/-- Reads the host under the rules of a kind of scheme. -/
def readHostOf (kind : SchemeKind) (cs : List Char) : Except UrlFault Host :=
  match kind with
  | .other => readOpaqueHost cs
  | _ => if cs.isEmpty then .error .emptyHost else readHost cs

def nonEmptyHost (host : Host) : Option Host := if host = .domain "" then none else some host

/-- Reads host and port, after user name and password. -/
def readHostAndPort (scheme : String) (kind : SchemeKind) (username password : String)
    (cs : List Char) : Except UrlFault (Authority × List Char) := do
  let characters := hostCharacters kind false cs
  let host ← readHostOf kind characters
  match cs.drop characters.length with
  | ':' :: rest =>
    if host = .domain "" then .error .emptyHost
    let (port, rest) ← readPort none rest
    let port := if port = defaultPort? scheme then none else port
    return (⟨username, password, nonEmptyHost host, port⟩, rest)
  | rest => return (⟨username, password, nonEmptyHost host, none⟩, rest)

/-- Reads the authority, from after its two slashes, and what follows it. -/
def readAuthority (scheme : String) (kind : SchemeKind) (cs : List Char) :
    Except UrlFault (Authority × List Char) := do
  let region := cs.takeWhile fun c => !endsAuthority kind c
  match splitLastAt? region with
  | none => readHostAndPort scheme kind "" "" cs
  | some ([], after) =>
    -- Nobody in front of the host: then the host must not be empty either.
    let rest := cs.drop (region.length - after.length)
    match rest with
    | c :: _ => if endsAuthority kind c then .error .emptyHost else pure ()
    | [] => pure ()
    readHostAndPort scheme kind "" "" rest
  | some (user, after) =>
    let (username, password) := readUserinfo user
    let (authority, rest) ←
      readHostAndPort scheme kind username password (cs.drop (region.length - after.length))
    if authority.host.isNone ∧ authority.userinfo ≠ "" then .error .emptyHost
    return (authority, rest)

/-! ## Path -/

def isDot (cs : List Char) : Bool := cs = ['.'] || cs.map Text.asciiLower = ['%', '2', 'e']

/-- The written forms of two dots. -/
def isDoubleDot (cs : List Char) : Bool :=
  let small := cs.map Text.asciiLower
  small = ['.', '.'] || small = ['.', '%', '2', 'e'] || small = ['%', '2', 'e', '.']
    || small = ['%', '2', 'e', '%', '2', 'e']

/-- A letter and a colon or a bar: the name of a drive. -/
def isDrive (cs : List Char) : Bool :=
  match cs with
  | [c, mark] => c.isAlpha && (mark == ':' || mark == '|')
  | _ => false

/-- The name of a drive in its one written form. -/
def isPlainDrive (cs : List Char) : Bool := isDrive cs && cs.getLast? == some ':'

/-- Splits a path into its segments. -/
def splitSegments (kind : SchemeKind) (cs : List Char) : List (List Char) :=
  cs.foldr
    (fun c segments =>
      if isSlash kind c then [] :: segments
      else
        match segments with
        | segment :: rest => (c :: segment) :: rest
        | [] => [[c]])
    [[]]

/-- Goes back one segment. The name of a drive stays. -/
def dropSegment (kind : SchemeKind) (segments : List (List Char)) : List (List Char) :=
  match segments with
  | [] => []
  | [only] => if kind = .file ∧ isPlainDrive only then [only] else []
  | segments => segments.dropLast

/-- Adds segments, as they are written, to those that are already there. A dot stays where it
is, two dots go back. -/
def addSegments (kind : SchemeKind) (done : List (List Char)) : List (List Char) → List (List Char)
  | [] => done
  | segment :: rest =>
    let last := rest.isEmpty
    let close (segments : List (List Char)) := if last then segments ++ [[]] else segments
    if isDoubleDot segment then addSegments kind (close (dropSegment kind done)) rest
    else if isDot segment then addSegments kind (close done) rest
    else if kind = .file ∧ done = [] ∧ isDrive segment then
      addSegments kind [segment.take 1 ++ [':']] rest
    else addSegments kind (done ++ [segment]) rest

/-- In a file's path, what follows the name of a drive starts a segment of its own. -/
def separateDrive : List (List Char) → List (List Char)
  | (c :: ':' :: d :: more) :: rest =>
    if c.isAlpha then [c, ':'] :: (d :: more) :: rest else (c :: ':' :: d :: more) :: rest
  | segments => segments

/-- The path of a text that ends at a question mark or a hash, without its first slash. -/
def readSegments (kind : SchemeKind) (cs : List Char) : List (List Char) :=
  let segments := (splitSegments kind cs).map (percentEncode inPath)
  addSegments kind [] (if kind = .file then separateDrive segments else segments)

/-- The path that segments make. -/
def segmentsText (segments : List (List Char)) : String :=
  String.ofList (segments.flatMap fun segment => '/' :: segment)

def takePath (cs : List Char) : List Char × List Char :=
  let isPath (c : Char) := c != '?' && c != '#'
  (cs.takeWhile isPath, cs.dropWhile isPath)

def readPath (kind : SchemeKind) (cs : List Char) : String :=
  match cs with
  | [] => if kind = .other then "" else "/"
  | c :: rest => segmentsText (readSegments kind (if isSlash kind c then rest else c :: rest))

/-- The path of a file, whose first slashes count as one. -/
def readFilePath (cs : List Char) : String :=
  let segments := readSegments .file (cs.dropWhile (isSlash .file))
  segmentsText (segments.dropWhile (· == []) ++ (if segments.all (· == []) then [[]] else []))

/-! ## Query and fragment -/

/-- The query and the fragment that follow a path. -/
def readTail (kind : SchemeKind) (cs : List Char) : Option String × Option String :=
  let encode (escaped : Char → Bool) (cs : List Char) := String.ofList (percentEncode escaped cs)
  let fragment (cs : List Char) :=
    match cs with
    | '#' :: rest => some (encode inFragment rest)
    | _ => none
  match cs with
  | '?' :: rest =>
    let escaped := if kind = .other then inQuery else inWebQuery
    (some (encode escaped (rest.takeWhile (· != '#'))), fragment (rest.dropWhile (· != '#')))
  | cs => (none, fragment cs)

/-! ## Addresses -/

/-- Puts an address together, from after its authority. -/
def finishUrl (scheme : String) (kind : SchemeKind) (authority : Option Authority)
    (readPath : List Char → String) (cs : List Char) : Url :=
  let (path, rest) := takePath cs
  let (query, fragment) := readTail kind rest
  ⟨scheme, authority, readPath path, query, fragment⟩

/-- The host of a file, unless it is this machine, and the path and what follows it. -/
def readFileHost (cs : List Char) : Except UrlFault (Option Host × List Char) := do
  let name := cs.takeWhile fun c => !endsAuthority .file c
  if isDrive name then return (none, cs)
  let rest := cs.drop name.length
  if name.isEmpty then return (none, rest)
  let host ← readHost name
  return (if host = .domain "localhost" then none else some host, rest)

/-- Reads the address of a file, from after its scheme. -/
def readFile (cs : List Char) : Except UrlFault Url :=
  match cs with
  | a :: b :: rest =>
    if isSlash .file a && isSlash .file b then do
      let (host, rest) ← readFileHost rest
      let first := (readSegments .file ((takePath rest).1.dropWhile (isSlash .file))).head?
      -- A path that starts with a drive is on this machine.
      let host := if (first.map isPlainDrive).getD false then none else host
      return finishUrl "file" .file (some { host }) readFilePath rest
    else return finishUrl "file" .file (some {}) readFilePath cs
  | cs => return finishUrl "file" .file (some {}) readFilePath cs

/-- Reads an address outside the web, from after its scheme. -/
def readOther (scheme : String) (cs : List Char) : Except UrlFault Url :=
  match cs with
  | '/' :: '/' :: rest => do
    let (authority, rest) ← readAuthority scheme .other rest
    return finishUrl scheme .other (some authority) (readPath .other) rest
  | '/' :: rest =>
    let path (cs : List Char) :=
      let path := segmentsText (readSegments .other cs)
      -- Two slashes would be taken for the start of an authority.
      if path.startsWith "//" then "/." ++ path else path
    .ok (finishUrl scheme .other none path rest)
  | cs =>
    .ok (finishUrl scheme .other none (fun path => String.ofList (percentEncode isControl path)) cs)

namespace Url

def parse (text : String) : Except UrlFault Url := do
  match readScheme? (urlCharacters text.toList) with
  | none => .error .relative
  | some (scheme, rest) =>
    match schemeKind scheme with
    | .web => do
      let (authority, rest) ← readAuthority scheme .web (rest.dropWhile (isSlash .web))
      return finishUrl scheme .web (some authority) (readPath .web) rest
    | .file => readFile rest
    | .other => readOther scheme rest

end Url

end ClusterAudit.Web
