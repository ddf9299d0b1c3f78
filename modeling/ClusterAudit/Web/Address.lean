-- SUMMARY: Numeric addresses of hosts, of four and of sixteen bytes.
import ClusterAudit.Number.Power
import ClusterAudit.Text.Lowercase
import ClusterAudit.Web.Percent

/-!
# Numeric addresses

The two kinds of numeric address that may stand for a host, in all the forms in
which they may be written, and the one form in which they are shown.
-/

namespace ClusterAudit.Web

/-! ## Numbers -/

/-- The number that digits of a base stand for. -/
def digits? (base : Nat) (cs : List Char) : Option Nat :=
  cs.foldl
    (fun total c =>
      match total, Text.hexValue? c with
      | some n, some d => if d < base then some (n * base + d) else none
      | _, _ => none)
    (some 0)

/-- A part of an address of four bytes: a decimal, an octal or a hexadecimal number. -/
def addressNumber? (cs : List Char) : Option Nat :=
  match cs with
  | [] => none
  | '0' :: 'x' :: rest => digits? 16 rest
  | '0' :: 'X' :: rest => digits? 16 rest
  | '0' :: d :: rest => digits? 8 (d :: rest)
  | cs => digits? 10 cs

/-! ## Four bytes -/

/-- The parts of a host's name between its dots. -/
def dotParts (cs : List Char) : List (List Char) := Text.splitAtChar '.' cs

/-- The parts without an empty last one. -/
def withoutEmptyEnd (parts : List (List Char)) : List (List Char) :=
  match parts.getLast? with
  | some [] => parts.dropLast
  | _ => parts

/-- Whether a host's name ends in a number, so that it has to be an address. -/
def endsInNumber (cs : List Char) : Bool :=
  let parts := dotParts cs
  let last? :=
    match parts.getLast? with
    | some [] => parts.dropLast.getLast?
    | last => last
  match last? with
  | none => false
  | some last => (!last.isEmpty && last.all Char.isDigit) || (addressNumber? last).isSome

/-- The address of four bytes that a host's name is. All parts but the last are bytes; the last
fills what is left. -/
def fourByteAddress? (cs : List Char) : Option Nat := do
  let parts := withoutEmptyEnd (dotParts cs)
  if 4 < parts.length then none
  let numbers ← parts.mapM addressNumber?
  let last ← numbers.getLast?
  let front := numbers.dropLast
  if 2 ^ (8 * (4 - front.length)) ≤ last then none
  if front.any (255 < ·) then none
  return front.zipIdx.foldr (fun (n, place) rest => n * 2 ^ (8 * (3 - place)) + rest) last

def fourByteText (n : Nat) : String :=
  s!"{n / 2 ^ 24 % 256}.{n / 2 ^ 16 % 256}.{n / 2 ^ 8 % 256}.{n % 256}"

/-! ## Sixteen bytes -/

/-- The parts of an address of sixteen bytes: its numbers of two bytes before and after the
place where zeros are left out, if there is one. -/
structure LongParts where
  front : List Nat
  /-- The numbers after the gap. -/
  back : Option (List Nat)

/-- Adds a number at the end. -/
def LongParts.push (parts : LongParts) (n : Nat) : LongParts :=
  match parts.back with
  | none => { parts with front := parts.front ++ [n] }
  | some back => { parts with back := some (back ++ [n]) }

/-- How many of the eight places are taken; the gap takes one at least. -/
def LongParts.size (parts : LongParts) : Nat :=
  match parts.back with
  | none => parts.front.length
  | some back => parts.front.length + 1 + back.length

/-- A decimal number below 256 without a leading zero. -/
def plainByte? (cs : List Char) : Option Nat :=
  match cs with
  | [] => none
  | ['0'] => some 0
  | '0' :: _ => none
  | cs => if 3 < cs.length then none else (digits? 10 cs).filter (· < 256)

/-- The numbers of two bytes that an address of four bytes at the end stands for. -/
def trailingFour? (cs : List Char) : Option (Nat × Nat) :=
  match (dotParts cs).mapM plainByte? with
  | some [a, b, c, d] => some (a * 256 + b, c * 256 + d)
  | _ => none

/-- Reads the groups of an address of sixteen bytes. Groups are separated by one colon, and by
two colons at the gap. -/
def readGroups : Nat → LongParts → List Char → Option LongParts
  | 0, _, _ => none
  | _ + 1, parts, [] => some parts
  | fuel + 1, parts, c :: rest =>
    if parts.size = 8 then none
    else if c = ':' then
      -- The second colon of the gap.
      match parts.back with
      | some _ => none
      | none => readGroups fuel { parts with back := some [] } rest
    else
      let text := c :: rest
      let digits := (text.take 4).takeWhile fun d => (Text.hexValue? d).isSome
      match text.drop digits.length with
      | '.' :: _ =>
        if digits.isEmpty || 6 < parts.size then none
        else do
          let (high, low) ← trailingFour? text
          return (parts.push high).push low
      | [] => (digits? 16 digits).map parts.push
      | ':' :: [] =>
        -- An address does not end in a single colon.
        none
      | ':' :: next => do
        if digits.isEmpty then none
        readGroups fuel (parts.push (← digits? 16 digits)) next
      | _ => none

/-- The eight numbers of two bytes of an address of sixteen bytes. -/
def sixteenByteAddress? (cs : List Char) : Option (List Nat) := do
  let start ←
    match cs with
    | ':' :: ':' :: rest => some (LongParts.mk [] (some []), rest)
    | ':' :: _ => none
    | cs => some (⟨[], none⟩, cs)
  let parts ← readGroups (cs.length + 1) start.1 start.2
  match parts.back with
  | none => if parts.front.length = 8 then some parts.front else none
  | some back =>
    if 8 < parts.size then none
    else some (parts.front ++ List.replicate (9 - parts.size) 0 ++ back)

/-- A number in hexadecimal without leading zeros. -/
def hexText (n : Nat) : String := String.ofList (Nat.toDigits 16 n)

/-- The start and the length of the first longest run of zeros, from a place on. -/
def zeroRun (place : Nat) (best run : Nat × Nat) : List Nat → Nat × Nat
  | [] => if best.2 < run.2 then run else best
  | n :: rest =>
    if n = 0 then
      let run := if run.2 = 0 then (place, 1) else (run.1, run.2 + 1)
      zeroRun (place + 1) best run rest
    else zeroRun (place + 1) (if best.2 < run.2 then run else best) (0, 0) rest

/-- An address of sixteen bytes as it is shown: the first longest run of two zeros or more is
left out. -/
def sixteenByteText (groups : List Nat) : String :=
  let (start, length) := zeroRun 0 (0, 0) (0, 0) groups
  let join (ns : List Nat) := String.intercalate ":" (ns.map hexText)
  if length < 2 then join groups
  else join (groups.take start) ++ "::" ++ join (groups.drop (start + length))

end ClusterAudit.Web
