-- SUMMARY: Punycode: texts outside ASCII in letters, digits and hyphens.
import ClusterAudit.Number.Power

/-!
# Punycode

A label is written as its ASCII characters, a hyphen, and the others as numbers
of varying length that tell where they stand. The numbers are in base 36, with
thresholds that follow the sizes met so far.
-/

namespace ClusterAudit.Punycode

/-! ## Digits and thresholds -/

def digit (n : Nat) : Char := if n < 26 then Char.ofNat (0x61 + n) else Char.ofNat (0x30 + (n - 26))

/-- The number of a digit, of either case. -/
def digitValue? (c : Char) : Option Nat :=
  let n := c.toNat
  if 0x61 ≤ n ∧ n ≤ 0x7a then some (n - 0x61)
  else if 0x41 ≤ n ∧ n ≤ 0x5a then some (n - 0x41)
  else if 0x30 ≤ n ∧ n ≤ 0x39 then some (n - 0x30 + 26)
  else none

/-- The threshold of the digit at a place. -/
def threshold (place bias : Nat) : Nat :=
  let k := 36 * (place + 1)
  if k ≤ bias then 1 else if bias + 26 ≤ k then 26 else k - bias

/-- Divides by 35 as long as the number is large; the count of divisions comes with it. -/
def halve : Nat → Nat → Nat → Nat × Nat
  | 0, delta, k => (delta, k)
  | fuel + 1, delta, k => if 455 < delta then halve fuel (delta / 35) (k + 36) else (delta, k)

/-- The bias after a number has been met, among so many characters. -/
def adapt (delta count : Nat) (first : Bool) : Nat :=
  let start := if first then delta / 700 else delta / 2
  let (small, k) := halve 16 (start + start / count) 0
  k + 36 * small / (small + 38)

def limit : Nat := 2 ^ 32

/-! ## Decoding -/

/-- Reads one number, from the digit at a place on, and what follows it. -/
def readNumber (bias : Nat) (place weight total : Nat) : List Char → Option (Nat × List Char)
  | [] => none
  | c :: rest => do
    let d ← digitValue? c
    let total := total + d * weight
    if limit ≤ total then none
    let t := threshold place bias
    if d < t then return (total, rest)
    let weight := weight * (36 - t)
    if limit ≤ weight then none
    readNumber bias (place + 1) weight total rest

/-- Puts characters at their places among those that are `done`. `code` is the code point from
which the next number counts, `index` the place. -/
def insertAll : Nat → Nat → Nat → Nat → List Nat → List Char → Option (List Nat)
  | _, _, _, _, done, [] => some done
  | 0, _, _, _, _, _ => none
  | fuel + 1, code, index, bias, done, cs => do
    let (delta, rest) ← readNumber bias 0 1 0 cs
    let count := done.length + 1
    let place := index + delta
    if limit ≤ place then none
    let code := code + place / count
    if 0x10ffff < code ∨ (0xd800 ≤ code ∧ code ≤ 0xdfff) then none
    let spot := place % count
    insertAll fuel code (spot + 1) (adapt delta count (index == 0))
      (done.take spot ++ code :: done.drop spot) rest

def splitLastHyphen (cs : List Char) : List Char × List Char :=
  let after := (cs.reverse.takeWhile (· != '-')).reverse
  (cs.take (cs.length - after.length - 1), after)

def decode (cs : List Char) : Option (List Char) :=
  let (plain, numbers) := splitLastHyphen cs
  if plain.any fun c => 0x80 ≤ c.toNat then none
  else (insertAll cs.length 0x80 0 72 (plain.map Char.toNat) numbers).map (·.map Char.ofNat)

/-! ## Encoding -/

/-- Writes one number, with as many digits as there is fuel. -/
def writeNumber (bias : Nat) : Nat → Nat → Nat → List Char
  | 0, _, _ => []
  | fuel + 1, place, n =>
    let t := threshold place bias
    if n < t then [digit n]
    else digit (t + (n - t) % (36 - t)) :: writeNumber bias fuel (place + 1) ((n - t) / (36 - t))

/-- What is known while a label is written: the number that counts up, the bias, how many
characters are written, and the digits. -/
structure Writer where
  delta : Nat
  bias : Nat
  written : Nat
  digits : List Char

/-- Passes a character of the label while the characters with one code point are written. -/
def Writer.pass (plain code : Nat) (w : Writer) (n : Nat) : Writer :=
  if n < code then { w with delta := w.delta + 1 }
  else if n = code then
    { delta := 0
      bias := adapt w.delta (w.written + 1) (w.written == plain)
      written := w.written + 1
      digits := w.digits ++ writeNumber w.bias 32 0 w.delta }
  else w

/-- Writes the characters of a label with the code points of a list, which ascends. -/
def writeCodes (label : List Nat) (plain : Nat) : Nat → Writer → List Nat → Writer
  | _, w, [] => w
  | previous, w, code :: rest =>
    let w := { w with delta := w.delta + (code - previous) * (w.written + 1) }
    let w := label.foldl (Writer.pass plain code) w
    writeCodes label plain (code + 1) { w with delta := w.delta + 1 } rest

/-- Puts a number into an ascending list, where each number stands once. -/
def insertCode (n : Nat) : List Nat → List Nat
  | [] => [n]
  | m :: rest =>
    if n < m then n :: m :: rest
    else if n = m then m :: rest
    else m :: insertCode n rest

def encode (label : List Char) : List Char :=
  let codes := label.map Char.toNat
  let plain := label.filter fun c => c.toNat < 0x80
  let others := (codes.filter (0x80 ≤ ·)).foldr insertCode []
  let w := writeCodes codes plain.length 0x80 ⟨0, 72, plain.length, []⟩ others
  (if plain.isEmpty then [] else plain ++ ['-']) ++ w.digits

end ClusterAudit.Punycode
