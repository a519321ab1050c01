import Joinery.Decimal.Binary64

/-! The fewest decimal digits that read back as a number.
Among the decimals of that length the nearest is taken; of two equally near ones, the format decides. -/
namespace Joinery
namespace Decimal

inductive Tie where
  | up
  | even
deriving DecidableEq, Repr

/-- Digits with the place of the point: the number is `0.digits * 10 ^ point`. -/
structure Digits where
  digits : List Char
  point : Int
deriving DecidableEq, Repr

/-- The reals that round to a number, as fractions over one denominator: the number, half the gap below
and half the gap above, and whether the ends belong. -/
structure Interval where
  value : Nat
  below : Nat
  above : Nat
  denominator : Nat
  closed : Bool

/-- The interval of a positive double; below a power of two the gap is half as wide. -/
def interval (mantissa scale : Nat) : Interval where
  value := 4 * mantissa * Nat.pow 2 scale
  below := if mantissa = Nat.pow 2 52 ∧ 0 < scale then Nat.pow 2 scale else 2 * Nat.pow 2 scale
  above := 2 * Nat.pow 2 scale
  denominator := 4 * Nat.pow 2 1074
  closed := mantissa % 2 == 0

/-- Whether the grid point `n * step` reads back, `step` over the interval's denominator. -/
def Interval.holds (i : Interval) (n step : Nat) : Bool :=
  if n * step ≤ i.value then
    if i.closed then decide (i.value - n * step ≤ i.below) else decide (i.value - n * step < i.below)
  else
    if i.closed then decide (n * step - i.value ≤ i.above) else decide (n * step - i.value < i.above)

/-- The grid point nearest to the value among its two neighbours that read back. -/
def Interval.nearest? (i : Interval) (tie : Tie) (step : Nat) : Option Nat :=
  let low := i.value / step
  let high := low + 1
  let toLow := i.value - low * step
  let toHigh := high * step - i.value
  match i.holds low step && low != 0, i.holds high step with
  | false, false => none
  | true, false => some low
  | false, true => some high
  | true, true =>
    if toLow < toHigh then some low
    else if toHigh < toLow then some high
    else
      match tie with
      | .up => some high
      | .even => some (low + low % 2)

def Interval.times (i : Interval) (k : Nat) : Interval :=
  { i with value := i.value * k, below := i.below * k, above := i.above * k }

/-- The least `k` with `value < 10 ^ k * unit`, found from `k` on in at most `fuel` steps. -/
def decimalLength (value unit : Nat) : Nat → Nat → Nat
  | 0, k => k
  | fuel + 1, k => if value < Nat.pow 10 k * unit then k else decimalLength value unit fuel (k + 1)

/-- Tries the grids of ever more digits; `count` digits have been tried. -/
def search (i : Interval) (tie : Tie) (point : Nat) : Nat → Nat → Nat × Nat
  | 0, count => (i.value / (i.denominator * Nat.pow 10 (point - count)), count)
  | fuel + 1, count =>
    let step := i.denominator * Nat.pow 10 (point - (count + 1))
    match i.nearest? tie step with
    | some n => (n, count + 1)
    | none => search i tie point fuel (count + 1)

def natDigits (n : Nat) : List Char :=
  if n < 10 then [Char.ofNat (48 + n)] else natDigits (n / 10) ++ [Char.ofNat (48 + n % 10)]

def withoutTrailingZeros (ds : List Char) : List Char :=
  (ds.reverse.dropWhile (· == '0')).reverse

/-- The shortest digits of the positive double `mantissa * 2 ^ scale / 2 ^ 1074`. The number is first
scaled by a power of ten above every leading zero, so that each grid is one of whole numbers. -/
def shortest (tie : Tie) (mantissa scale : Nat) : Digits :=
  let i := (interval mantissa scale).times (Nat.pow 10 342)
  let length := decimalLength i.value i.denominator 652 0
  let (n, count) := search i tie length 17 0
  let ds := natDigits n
  { digits := withoutTrailingZeros ds
    point := (length : Int) - 342 + ((ds.length : Int) - count) }

end Decimal
end Joinery
