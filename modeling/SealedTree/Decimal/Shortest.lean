import SealedTree.Decimal.Binary

/-!
The shortest decimal that reads back as a given double.

A positive double stands for every real that rounds to it, an interval around its value whose ends
belong to it when its significand is even. Among the decimals in that interval the one with the
fewest digits is taken, of two with equally many the nearer one, and of two equally near the even
one. All comparisons are between natural numbers.
-/

namespace SealedTree.Decimal

/-- The number `coefficient · 10 ^ point`. -/
structure Scaled where
  coefficient : Nat
  point : Int
  deriving DecidableEq

/-- The interval of a double, its bounds and its value as multiples of `1 / unit`. -/
structure Interval where
  low : Nat
  value : Nat
  high : Nat
  unit : Nat
  closed : Bool

/-- The reals that round to `significand · 2 ^ exponent`. Below a power of two the next double is
only half as far away. -/
def Interval.around (significand : Nat) (exponent : Int) : Interval :=
  let below := if significand = implicitBit ∧ -1074 < exponent then 1 else 2
  let up := Nat.pow 2 (exponent - 2).toNat
  { low := (4 * significand - below) * up
    value := 4 * significand * up
    high := (4 * significand + 2) * up
    unit := Nat.pow 2 (2 - exponent).toNat
    closed := significand % 2 = 0 }

def Interval.contains (i : Interval) (n unit : Nat) : Bool :=
  let low := i.low * unit
  let high := i.high * unit
  let n := n * i.unit
  if i.closed then low ≤ n && n ≤ high else low < n && n < high

/-- How many times `n` has to be multiplied by ten to reach `goal`. -/
def stepsTo (goal : Nat) : (fuel n : Nat) → Nat
  | 0, _ => 0
  | fuel + 1, n => if goal ≤ n then 0 else stepsTo goal fuel (10 * n) + 1

/-- The power of ten just above the value: `10 ^ (d - 1) ≤ value < 10 ^ d`. -/
def Interval.decade (i : Interval) : Int :=
  if i.unit ≤ i.value then ((Nat.toDigits 10 (i.value / i.unit)).length : Int)
  else 1 - (stepsTo i.unit 400 i.value : Int)

/-- The decimal at one of the two neighbours of the value on the grid of multiples of `10 ^ point`,
if the interval contains one. -/
def Interval.onGrid (i : Interval) (point : Int) : Option Scaled :=
  let scale := Nat.pow 10 (-point).toNat
  let step := Nat.pow 10 point.toNat
  let value := i.value * scale
  let grid := i.unit * step
  let down := value / grid
  let left := value % grid
  let downIn := i.contains (down * step) scale
  let upIn := i.contains ((down + 1) * step) scale
  if downIn && upIn then
    if 2 * left < grid || (2 * left = grid && down % 2 = 0) then some ⟨down, point⟩
    else some ⟨down + 1, point⟩
  else if downIn then some ⟨down, point⟩
  else if upIn then some ⟨down + 1, point⟩
  else none

/-- The decimal of a positive double. Seventeen digits always tell two doubles apart. -/
def shortest (significand : Nat) (exponent : Int) : Scaled :=
  let i := Interval.around significand exponent
  let decade := i.decade
  (((List.range' 1 17).findSome? fun (digits : Nat) => i.onGrid (decade - digits)).getD
    ⟨significand, 0⟩)

def Scaled.trimmed (s : Scaled) : Scaled :=
  let digits := Nat.toDigits 10 s.coefficient
  let zeros := (digits.reverse.takeWhile (· = '0')).length
  if s.coefficient = 0 then ⟨0, 0⟩ else ⟨s.coefficient / Nat.pow 10 zeros, s.point + zeros⟩

end SealedTree.Decimal
