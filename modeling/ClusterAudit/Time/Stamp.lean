-- SUMMARY: Reading the stamp of an instant.
import ClusterAudit.Number.Power
import ClusterAudit.Time.Instant
import ClusterAudit.Text.Blank
import ClusterAudit.Text.Digit

/-!
# Reading stamps

A stamp is a date, one of `T`, `t` and a space, a time of day and an offset from
universal time. The reader is lenient: blanks may stand before each number, the
year may carry a sign, the fraction any number of digits, and the offset a colon
or blanks between its two numbers. What it gives is in universal time.
-/

namespace ClusterAudit.Stamp

open ClusterAudit.Text

/-! ## Faults -/

inductive Fault
  | tooShort
  | invalid
  | outOfRange
  | tooLong
  /-- A time that lies outside the calendar once it is moved to universal time. -/
  | impossible
deriving DecidableEq, Repr

def Fault.message : Fault → String
  | .tooShort => "premature end of input"
  | .invalid => "input contains invalid characters"
  | .outOfRange => "input is out of range"
  | .tooLong => "trailing input"
  | .impossible => "no possible date and time matching input"

/-! ## Parts -/

/-- Whether fewer than `n` bytes are left. -/
def isShorter (n : Nat) (cs : List Char) : Bool :=
  cs.foldr (fun c bytes => c.utf8Size + bytes) 0 < n

def numberLimit : Nat := 2 ^ 63

/-- Reads on in a number, at most `width` digits. -/
def readDigits (value : Nat) : Nat → List Char → Except Fault (Nat × List Char)
  | 0, cs => .ok (value, cs)
  | _ + 1, [] => .ok (value, [])
  | width + 1, c :: cs =>
    if c.isDigit then
      let longer := value * 10 + digitValue c
      if numberLimit ≤ longer then .error .outOfRange else readDigits longer width cs
    else .ok (value, c :: cs)

def readNumber (width : Nat) : List Char → Except Fault (Nat × List Char)
  | [] => .error .tooShort
  | c :: cs => if c.isDigit then readDigits 0 width (c :: cs) else .error .invalid

/-- Reads a year, which may have any number of digits after a sign. -/
def readYear (cs : List Char) : Except Fault (Int × List Char) := do
  match trimStart cs with
  | '-' :: rest => do
    let (n, rest) ← readNumber rest.length rest
    return (-(n : Int), rest)
  | '+' :: rest => do
    let (n, rest) ← readNumber rest.length rest
    return ((n : Int), rest)
  | cs => do
    let (n, rest) ← readNumber 4 cs
    return ((n : Int), rest)

/-- Reads a number of two digits that lies between two limits. -/
def readPart (low high : Nat) (cs : List Char) : Except Fault (Nat × List Char) := do
  let (n, rest) ← readNumber 2 (trimStart cs)
  if low ≤ n ∧ n ≤ high then return (n, rest) else .error .outOfRange

def readMark (mark : Char) (cs : List Char) : Except Fault (List Char) :=
  match trimStart cs with
  | [] => .error .tooShort
  | c :: rest => if c = mark then .ok rest else .error .invalid

/-- Reads a date. The year is checked with the rest of the stamp. -/
def readDate (cs : List Char) : Except Fault (Date × List Char) := do
  let (year, cs) ← readYear cs
  -- A year outside 32 bits is refused at once.
  if year < -(2 ^ 31) ∨ 2 ^ 31 ≤ year then .error .outOfRange
  let cs ← readMark '-' cs
  let (month, cs) ← readPart 1 12 cs
  let cs ← readMark '-' cs
  let (day, cs) ← readPart 1 31 cs
  return (⟨year, month, day⟩, cs)

def readFraction : List Char → Except Fault (Nat × List Char)
  | '.' :: rest => do
    let (n, after) ← readNumber 9 rest
    let taken := rest.length - after.length
    return (n * 10 ^ (9 - taken), after.dropWhile Char.isDigit)
  | cs => .ok (0, cs)

/-- A time of day and its fraction. -/
structure TimeOfDay where
  hour : Nat
  minute : Nat
  second : Nat
  nano : Nat

/-- Reads a time of day. The second sixty is a leap second. -/
def readTime (cs : List Char) : Except Fault (TimeOfDay × List Char) := do
  let (hour, cs) ← readPart 0 23 cs
  let cs ← readMark ':' cs
  let (minute, cs) ← readPart 0 59 cs
  let cs ← readMark ':' cs
  let (second, cs) ← readPart 0 60 cs
  let (nano, cs) ← readFraction cs
  if second = 60 then return (⟨hour, minute, 59, nano + 1000000000⟩, cs)
  return (⟨hour, minute, second, nano⟩, cs)

/-! ## Offsets -/

def readTwoDigits (cs : List Char) : Except Fault ((Nat × Nat) × List Char) :=
  if isShorter 2 cs then .error .tooShort
  else
    match cs with
    | a :: b :: rest =>
      if a.isDigit && b.isDigit then .ok ((digitValue a, digitValue b), rest) else .error .invalid
    | _ => .error .invalid

/-- Reads the numbers of an offset: hours, a colon or blanks, and minutes. The offset is in
minutes. -/
def readOffsetNumbers (cs : List Char) : Except Fault (Nat × List Char) := do
  let ((h1, h2), cs) ← readTwoDigits cs
  let cs := cs.dropWhile fun c => c == ':' || isBlank c
  let ((m1, m2), cs) ← readTwoDigits cs
  if 6 ≤ m1 then .error .outOfRange
  return ((h1 * 10 + h2) * 60 + m1 * 10 + m2, cs)

/-- Reads the offset from universal time, in minutes. -/
def readOffset (cs : List Char) : Except Fault (Int × List Char) :=
  match trimStart cs with
  | [] => .error .tooShort
  | c :: rest =>
    if (c = 'u' ∨ c = 'U') ∧ (rest.take 2).map Char.toLower = ['t', 'c'] then .ok (0, rest.drop 2)
    else if c = 'Z' ∨ c = 'z' then .ok (0, rest)
    else if c = '+' then do
      let (minutes, rest) ← readOffsetNumbers rest
      return ((minutes : Int), rest)
    else if c = '-' ∨ c = '−' then do
      let (minutes, rest) ← readOffsetNumbers rest
      return (-(minutes : Int), rest)
    else .error .invalid

/-! ## Stamps -/

/-- The instant at which clocks that are `offset` minutes ahead show a date and a time. -/
def toInstant (date : Date) (time : TimeOfDay) (offset : Int) : Except Fault Instant :=
  let minutes : Int := (time.hour * 60 + time.minute : Nat) - offset
  let ofMinutes (date : Date) (minutes : Nat) : Except Fault Instant :=
    if date.isValid then .ok ⟨date, minutes / 60, minutes % 60, time.second, time.nano⟩
    else .error .impossible
  if minutes < 0 then ofMinutes date.previous (minutes + 1440).toNat
  else if minutes < 1440 then ofMinutes date minutes.toNat
  else ofMinutes date.next (minutes - 1440).toNat

/-- The instant that a stamp tells. -/
def parse (text : String) : Except Fault Instant := do
  let (date, cs) ← readDate text.toList
  let cs ←
    match cs with
    | [] => .error .tooShort
    | c :: rest => if c = 'T' ∨ c = 't' ∨ c = ' ' then .ok rest else .error .invalid
  let (time, cs) ← readTime cs
  let (offset, cs) ← readOffset cs
  if !isBlankText cs then .error .tooLong
  if !date.isValid then .error .outOfRange
  if offset.natAbs ≥ 1440 then .error .outOfRange
  toInstant date time offset

end ClusterAudit.Stamp
