-- SUMMARY: The standard base64 alphabet with padding, encoded and strictly decoded.
import ClusterAudit.Text.Utf8

/-!
# Base64

Bytes as groups of four symbols for three bytes. Decoding accepts exactly what
encoding produces: padding is required, and the unused bits of the last symbol
are zero.
-/

namespace ClusterAudit.Base64

abbrev Bytes := Utf8.Bytes

/-! ## Symbols -/

def symbol (n : Nat) : UInt8 :=
  if n < 26 then UInt8.ofNat (0x41 + n)
  else if n < 52 then UInt8.ofNat (0x61 + (n - 26))
  else if n < 62 then UInt8.ofNat (0x30 + (n - 52))
  else if n = 62 then 0x2b
  else 0x2f

def symbolValue? (b : UInt8) : Option Nat :=
  let n := b.toNat
  if 0x41 ≤ n ∧ n ≤ 0x5a then some (n - 0x41)
  else if 0x61 ≤ n ∧ n ≤ 0x7a then some (n - 0x61 + 26)
  else if 0x30 ≤ n ∧ n ≤ 0x39 then some (n - 0x30 + 52)
  else if n = 0x2b then some 62
  else if n = 0x2f then some 63
  else none

/-- The byte that fills up the last group. -/
def padding : UInt8 := 0x3d

/-! ## Encoding -/

/-- The symbols of a stretch of bytes. -/
def encode : Bytes → Bytes
  | [] => []
  | [a] => [symbol (a.toNat / 4), symbol (a.toNat % 4 * 16), padding, padding]
  | [a, b] =>
    [symbol (a.toNat / 4), symbol (a.toNat % 4 * 16 + b.toNat / 16), symbol (b.toNat % 16 * 4),
      padding]
  | a :: b :: c :: rest =>
    symbol (a.toNat / 4) :: symbol (a.toNat % 4 * 16 + b.toNat / 16)
      :: symbol (b.toNat % 16 * 4 + c.toNat / 64) :: symbol (c.toNat % 64) :: encode rest

/-! ## Decoding -/

/-- What may be wrong with encoded bytes. -/
inductive Fault
  | invalidSymbol (index : Nat) (byte : UInt8)
  | invalidLength (length : Nat)
  | invalidLastSymbol (index : Nat) (byte : UInt8)
  | invalidPadding
deriving DecidableEq, Repr

def Fault.message : Fault → String
  | .invalidSymbol index byte => s!"Invalid symbol {byte.toNat}, offset {index}."
  | .invalidLength length => s!"Invalid input length: {length}"
  | .invalidLastSymbol index byte => s!"Invalid last symbol {byte.toNat}, offset {index}."
  | .invalidPadding => "Invalid padding"

def valueAt (index : Nat) (b : UInt8) : Except Fault Nat :=
  match symbolValue? b with
  | some n => .ok n
  | none => .error (.invalidSymbol index b)

/-- The last group as far as it has been read. -/
structure Group where
  values : List Nat := []
  last : UInt8 := 0
  /-- The place of the first padding in the group, and how much there is. -/
  paddingAt : Nat := 0
  paddings : Nat := 0

/-- Reads the symbols and the padding of the last group, which starts at `start`. -/
def readGroup (start : Nat) (offset : Nat) (group : Group) : Bytes → Except Fault Group
  | [] => .ok group
  | b :: rest =>
    if b = padding then
      if offset < 2 then .error (.invalidSymbol (start + offset) b)
      else
        let group := if group.paddings = 0 then { group with paddingAt := offset } else group
        readGroup start (offset + 1) { group with paddings := group.paddings + 1 } rest
    else if 0 < group.paddings then .error (.invalidSymbol (start + group.paddingAt) padding)
    else do
      let value ← valueAt (start + offset) b
      readGroup start (offset + 1) { group with values := group.values ++ [value], last := b } rest

/-- The bytes of the last group, whose symbols start at `start`. -/
def finishGroup (start : Nat) (group : Group) : Except Fault Bytes :=
  let count := group.values.length
  if count < 2 then .error (.invalidLength (start + count))
  else if (group.paddings + count) % 4 ≠ 0 then .error .invalidPadding
  else
    let lastFault : Fault := .invalidLastSymbol (start + count - 1) group.last
    match group.values with
    | [a, b] => if b % 16 ≠ 0 then .error lastFault else .ok [UInt8.ofNat (a * 4 + b / 16)]
    | [a, b, c] =>
      if c % 4 ≠ 0 then .error lastFault
      else .ok [UInt8.ofNat (a * 4 + b / 16), UInt8.ofNat (b % 16 * 16 + c / 4)]
    | [a, b, c, d] =>
      .ok [UInt8.ofNat (a * 4 + b / 16), UInt8.ofNat (b % 16 * 16 + c / 4),
        UInt8.ofNat (c % 4 * 64 + d)]
    | _ => .error .invalidPadding

/-- Decodes groups that start at `index`. A group that others follow has four symbols. -/
def decodeFrom (index : Nat) : Bytes → Except Fault Bytes
  | [] => .ok []
  | a :: b :: c :: d :: e :: rest => do
    let a ← valueAt index a
    let b ← valueAt (index + 1) b
    let c ← valueAt (index + 2) c
    let d ← valueAt (index + 3) d
    let bytes ← decodeFrom (index + 4) (e :: rest)
    return UInt8.ofNat (a * 4 + b / 16) :: UInt8.ofNat (b % 16 * 16 + c / 4)
      :: UInt8.ofNat (c % 4 * 64 + d) :: bytes
  | last => do
    let group ← readGroup index 0 {} last
    finishGroup index group

/-- A symbol that is left over after the groups and is none of the alphabet. -/
def strayEnd? (bytes : Bytes) : Option Fault :=
  if bytes.length % 4 = 1 then
    match bytes.getLast? with
    | some b =>
      if b ≠ padding ∧ (symbolValue? b).isNone then some (.invalidSymbol (bytes.length - 1) b)
      else none
    | none => none
  else none

/-- The bytes that symbols stand for, or the first fault. -/
def decode (bytes : Bytes) : Except Fault Bytes :=
  match strayEnd? bytes with
  | some fault => .error fault
  | none => decodeFrom 0 bytes

end ClusterAudit.Base64
