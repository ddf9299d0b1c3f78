-- SUMMARY: Finite binary64 numbers as exact values: rounding, arithmetic, shortest decimal text.
import ClusterAudit.Number.Power

/-!
# Binary64 numbers

A finite binary64 number is kept as the exact value it stands for, so that
arithmetic on it is arithmetic on natural numbers followed by one rounding.
The decimal text of a number is the shortest one that reads back as it, and
among those the nearest.
-/

namespace ClusterAudit

/-- The number `± significand * 2 ^ exponent`. -/
structure Binary64 where
  negative : Bool
  significand : Nat
  exponent : Int
deriving DecidableEq, Repr, Inhabited

namespace Binary64

/-! ## Rounding -/

/-- The exponent of the smallest positive number, and of every subnormal one. -/
def minExponent : Int := -1074

/-- The largest exponent of a 53-bit significand. -/
def maxExponent : Int := 971

/-- The integer nearest to `num / den`; a half goes to the even neighbour. -/
def roundHalfEven (num den : Nat) : Nat :=
  let q := num / den
  let r := num % den
  if 2 * r < den then q
  else if den < 2 * r then q + 1
  else if q % 2 = 0 then q else q + 1

/-- `num / den` divided by `2 ^ e`, as a numerator and a denominator. -/
def scaleBy (num den : Nat) (e : Int) : Nat × Nat :=
  if 0 ≤ e then (num, den * 2 ^ e.toNat) else (num * 2 ^ (-e).toNat, den)

/-- The binary64 number nearest to `± num / den`, or `none` when that is too
large to be finite. -/
def nearest (negative : Bool) (num den : Nat) : Option Binary64 :=
  if num = 0 then some ⟨negative, 0, minExponent⟩
  else
    let low : Int := (num.log2 : Int) - den.log2 - 53
    let (n, d) := scaleBy num den low
    let e := max minExponent (if n < d * 2 ^ 53 then low else low + 1)
    let (n, d) := scaleBy num den e
    let m := roundHalfEven n d
    let (m, e) := if m = 2 ^ 53 then (2 ^ 52, e + 1) else (m, e)
    if maxExponent < e then none else some ⟨negative, m, e⟩

/-- The magnitude of a number, as a numerator and a denominator. -/
def magnitude (x : Binary64) : Nat × Nat :=
  if 0 ≤ x.exponent then (x.significand * 2 ^ x.exponent.toNat, 1)
  else (x.significand, 2 ^ (-x.exponent).toNat)

def isZero (x : Binary64) : Bool := x.significand == 0

/-- The product, rounded. -/
def mul (x y : Binary64) : Option Binary64 :=
  let (a, b) := x.magnitude
  let (c, d) := y.magnitude
  nearest (x.negative != y.negative) (a * c) (b * d)

/-- The quotient by a number that is not zero, rounded. -/
def div (x y : Binary64) : Option Binary64 :=
  let (a, b) := x.magnitude
  let (c, d) := y.magnitude
  nearest (x.negative != y.negative) (a * d) (b * c)

/-! ## Shortest decimal form -/

/-- `10 ^ k * den ≤ num`, for `k` of either sign. -/
def tenPowerLe (k : Int) (num den : Nat) : Bool :=
  if 0 ≤ k then 10 ^ k.toNat * den ≤ num else den ≤ num * 10 ^ (-k).toNat

/-- The `k` with `10 ^ k ≤ num / den < 10 ^ (k + 1)`, for a positive quotient. -/
def decimalExponent (num den : Nat) : Int :=
  let guess : Int := (((num.log2 : Int) - den.log2 - 1) * 30103) / 100000
  let guess := if tenPowerLe guess num den then guess else guess - 1
  if tenPowerLe (guess + 2) num den then guess + 2
  else if tenPowerLe (guess + 1) num den then guess + 1
  else guess

/-- A positive number, four times finer: its value and the ends of the interval
of values that round to it, all over one denominator. -/
structure Interval where
  low : Nat
  value : Nat
  high : Nat
  den : Nat
  closed : Bool

/-- The interval of values that round to `x`. -/
def interval (x : Binary64) : Interval :=
  let quarter := x.exponent - 2
  let m := 4 * x.significand
  let down := if x.significand = 2 ^ 52 ∧ minExponent < x.exponent then 1 else 2
  let scaled (k : Nat) : Nat := if 0 ≤ quarter then k * 2 ^ quarter.toNat else k
  { low := scaled (m - down), value := scaled m, high := scaled (m + 2)
    den := if 0 ≤ quarter then 1 else 2 ^ (-quarter).toNat
    closed := x.significand % 2 = 0 }

/-- The decimal `digits * 10 ^ exponent`. -/
structure Decimal where
  digits : Nat
  exponent : Int
deriving DecidableEq, Repr

/-- The candidate nearest to the value on the grid of multiples of `10 ^ k`, if
one of the value's two neighbours on that grid lies in the interval. -/
def Interval.onGrid (i : Interval) (k : Int) : Option Decimal :=
  let unit := if 0 ≤ k then 10 ^ k.toNat else 1
  let scale := if 0 ≤ k then 1 else 10 ^ (-k).toNat
  let step := unit * i.den
  let low := i.low * scale
  let value := i.value * scale
  let high := i.high * scale
  let below := value / step
  let inside (n : Nat) : Bool :=
    if i.closed then low ≤ n * step && n * step ≤ high
    else low < n * step && n * step < high
  let nearBelow := 2 * (value % step) < step || (2 * (value % step) = step && below % 2 = 0)
  let first := if nearBelow then below else below + 1
  let second := if nearBelow then below + 1 else below
  if inside first && first != 0 then some ⟨first, k⟩
  else if inside second && second != 0 then some ⟨second, k⟩
  else none

/-- The first grid, from the coarsest, that has a candidate. -/
def Interval.search (i : Interval) (top : Int) : Nat → Nat → Decimal
  | 0, tried => (i.onGrid (top - tried)).getD ⟨0, 0⟩
  | fuel + 1, tried => (i.onGrid (top - tried)).getD (i.search top fuel (tried + 1))

/-- A decimal without trailing zeros in its digits. -/
def Decimal.strip : Nat → Decimal → Decimal
  | 0, d => d
  | fuel + 1, d =>
    if d.digits % 10 = 0 ∧ d.digits ≠ 0 then Decimal.strip fuel ⟨d.digits / 10, d.exponent + 1⟩
    else d

/-- The shortest decimal that rounds to `x`, and the nearest among those; seventeen
digits always suffice. -/
def shortest (x : Binary64) : Decimal :=
  let i := x.interval
  Decimal.strip 20 (i.search (decimalExponent i.value i.den) 17 0)

/-! ## Text -/

/-- The decimal text of a number: positional with a point from `10 ^ -5` up to
`10 ^ 16`, and otherwise in powers of ten without a plus sign. -/
def text (x : Binary64) : String :=
  let sign := if x.negative then "-" else ""
  if x.isZero then sign ++ "0.0"
  else
    let d := x.shortest
    let digits := toString d.digits
    let point : Int := digits.length + d.exponent
    let zeros (n : Int) : String := String.ofList (List.replicate n.toNat '0')
    let whole := String.ofList (digits.toList.take point.toNat)
    let part := String.ofList (digits.toList.drop point.toNat)
    let head := String.ofList (digits.toList.take 1)
    let tail := String.ofList (digits.toList.drop 1)
    sign ++
      (if 0 ≤ d.exponent ∧ point ≤ 16 then digits ++ zeros d.exponent ++ ".0"
       else if 0 < point ∧ point ≤ 16 then whole ++ "." ++ part
       else if -5 < point ∧ point ≤ 0 then "0." ++ zeros (-point) ++ digits
       else if tail.isEmpty then head ++ "e" ++ toString (point - 1)
       else head ++ "." ++ tail ++ "e" ++ toString (point - 1))

end Binary64

end ClusterAudit
