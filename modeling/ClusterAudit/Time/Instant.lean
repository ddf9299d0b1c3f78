-- SUMMARY: Instants in universal time, with the calendar, and the texts in which they are written.
/-!
# Instants

An instant is a calendar date and a time of day in universal time, to the
nanosecond. A leap second is the second 59 with a thousand million nanoseconds
added to it.

Two texts are made of an instant: a stamp such as `2024-05-01T10:00:00Z`, which
carries a fraction of 3, 6 or 9 digits when there is one, and the time of a
clock in seconds.
-/

namespace ClusterAudit

/-- A calendar date. -/
structure Date where
  year : Int
  month : Nat
  day : Nat
deriving DecidableEq, Repr, Inhabited

/-- An instant in universal time. -/
structure Instant where
  date : Date
  hour : Nat
  minute : Nat
  second : Nat
  /-- The nanoseconds, from a thousand million on in a leap second. -/
  nano : Nat
deriving DecidableEq, Repr, Inhabited

/-! ## The calendar -/

namespace Date

def firstYear : Int := -262143

def lastYear : Int := 262142

/-- Whether a year has a day more. -/
def isLeapYear (year : Int) : Bool := year % 4 == 0 && (year % 100 != 0 || year % 400 == 0)

def daysInMonth (year : Int) (month : Nat) : Nat :=
  if month = 2 then (if isLeapYear year then 29 else 28)
  else if month = 4 ∨ month = 6 ∨ month = 9 ∨ month = 11 then 30
  else 31

def isValid (d : Date) : Bool :=
  firstYear ≤ d.year && d.year ≤ lastYear && 1 ≤ d.month && d.month ≤ 12
    && 1 ≤ d.day && d.day ≤ daysInMonth d.year d.month

/-- The day after. -/
def next (d : Date) : Date :=
  if d.day < daysInMonth d.year d.month then { d with day := d.day + 1 }
  else if d.month < 12 then ⟨d.year, d.month + 1, 1⟩
  else ⟨d.year + 1, 1, 1⟩

def previous (d : Date) : Date :=
  if 1 < d.day then { d with day := d.day - 1 }
  else if 1 < d.month then ⟨d.year, d.month - 1, daysInMonth d.year (d.month - 1)⟩
  else ⟨d.year - 1, 12, 31⟩

/-- The date that lies `days` after the first of January of a year. -/
def ofYearDay (year : Int) : Nat → Nat → Date
  | 0, _ => ⟨year, 12, 31⟩
  | months + 1, days =>
    let month := 12 - months
    if days < daysInMonth year month then ⟨year, month, days + 1⟩
    else ofYearDay year months (days - daysInMonth year month)

/-- The days of a year. -/
def yearLength (year : Int) : Nat := if isLeapYear year then 366 else 365

/-- The date that lies `days` after the first of January of a year, if that is at most
`years` years later. -/
def addDays : Nat → Int → Nat → Date
  | 0, year, days => ofYearDay year 12 days
  | years + 1, year, days =>
    if days < yearLength year then ofYearDay year 12 days
    else addDays years (year + 1) (days - yearLength year)

end Date

/-! ## Writing -/

/-- A number with zeros in front, up to a width. -/
def padded (width n : Nat) : String :=
  let digits := toString n
  String.ofList (List.replicate (width - digits.length) '0') ++ digits

namespace Instant

/-- The second as it is shown: sixty in a leap second. -/
def shownSecond (t : Instant) : Nat := t.second + t.nano / 1000000000

/-- The nanoseconds of the fraction. -/
def fraction (t : Instant) : Nat := t.nano % 1000000000

/-- A year takes four digits, and a sign when it lies outside them. -/
def yearText (year : Int) : String :=
  if 0 ≤ year ∧ year ≤ 9999 then padded 4 year.toNat
  else if year < 0 then "-" ++ padded 4 year.natAbs
  else "+" ++ padded 4 year.toNat

/-- A date as year, month and day. -/
def dateText (d : Date) : String :=
  yearText d.year ++ "-" ++ padded 2 d.month ++ "-" ++ padded 2 d.day

/-- The time of day of an instant, to the second. -/
def timeText (t : Instant) : String :=
  padded 2 t.hour ++ ":" ++ padded 2 t.minute ++ ":" ++ padded 2 t.shownSecond

/-- The fraction, in as many of 0, 3, 6 and 9 digits as it needs. -/
def fractionText (nanos : Nat) : String :=
  if nanos = 0 then ""
  else if nanos % 1000000 = 0 then "." ++ padded 3 (nanos / 1000000)
  else if nanos % 1000 = 0 then "." ++ padded 6 (nanos / 1000)
  else "." ++ padded 9 nanos

/-- The stamp of an instant, as in `2024-05-01T10:00:00.250Z`. -/
def stamp (t : Instant) : String :=
  dateText t.date ++ "T" ++ t.timeText ++ fractionText t.fraction ++ "Z"

/-- The time of a clock, as in `2024-05-01 10:00:00`. -/
def clockText (t : Instant) : String := dateText t.date ++ " " ++ t.timeText

/-- The instant that lies whole seconds after the beginning of 1970. -/
def ofSeconds (seconds : Nat) : Instant :=
  let days := seconds / 86400
  let rest := seconds % 86400
  ⟨Date.addDays (days / 365 + 1) 1970 days, rest / 3600, rest % 3600 / 60, rest % 60, 0⟩

end Instant

end ClusterAudit
