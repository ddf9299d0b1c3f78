-- SUMMARY: The host of an address: a name or a number.
import ClusterAudit.Web.Address
import ClusterAudit.Web.Domain

/-!
# Hosts

A host is a name in its ASCII form or a numeric address. Outside the web it may
be any text of characters that mean nothing else.
-/

namespace ClusterAudit.Web

inductive UrlFault
  | relative
  | emptyHost
  | invalidPort
  | invalidFourBytes
  | invalidSixteenBytes
  | invalidDomain
  | invalidHostCharacter
deriving DecidableEq, Repr

def UrlFault.message : UrlFault → String
  | .relative => "relative URL without a base"
  | .emptyHost => "empty host"
  | .invalidPort => "invalid port number"
  | .invalidFourBytes => "invalid IPv4 address"
  | .invalidSixteenBytes => "invalid IPv6 address"
  | .invalidDomain => "invalid international domain name"
  | .invalidHostCharacter => "invalid domain character"

/-- A host. -/
inductive Host
  | domain (name : String)
  | fourBytes (address : Nat)
  | sixteenBytes (groups : List Nat)
deriving DecidableEq, Repr

def Host.text : Host → String
  | .domain name => name
  | .fourBytes address => fourByteText address
  | .sixteenBytes groups => "[" ++ sixteenByteText groups ++ "]"

/-- Reads an address in brackets, from after the first one. -/
def readBracketed (cs : List Char) : Except UrlFault Host :=
  match cs.getLast? with
  | some ']' =>
    match sixteenByteAddress? cs.dropLast with
    | some groups => .ok (.sixteenBytes groups)
    | none => .error .invalidSixteenBytes
  | _ => .error .invalidSixteenBytes

def readHost (cs : List Char) : Except UrlFault Host :=
  match cs with
  | '[' :: rest => readBracketed rest
  | cs =>
    match (Utf8.decode (percentDecode cs)).toOption.bind domainToAscii? with
    | none => .error .invalidDomain
    | some [] => .error .emptyHost
    | some name =>
      if endsInNumber name then
        match fourByteAddress? name with
        | some address => .ok (.fourBytes address)
        | none => .error .invalidFourBytes
      else .ok (.domain (String.ofList name))

/-- The characters that no host outside the web may hold. -/
def isForbiddenInHost (c : Char) : Bool :=
  c.toNat == 0 || isOneOf
    ['\t', '\n', '\r', ' ', '#', '/', ':', '<', '>', '?', '@', '[', '\\', ']', '^', '|'] c

/-- Reads a host outside the web. -/
def readOpaqueHost (cs : List Char) : Except UrlFault Host :=
  match cs with
  | '[' :: rest => readBracketed rest
  | cs =>
    if cs.any isForbiddenInHost then .error .invalidHostCharacter
    else .ok (.domain (String.ofList (percentEncode isControl cs)))

end ClusterAudit.Web
