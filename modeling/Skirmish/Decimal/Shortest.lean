import Skirmish.Decimal
import Skirmish.Scalar.Binary64

namespace Skirmish.Decimal

-- The reals that round to one positive double, measured on a decimal grid: the
-- grid's points are the multiples of `unit`, and the double itself is `value`.
-- The ends belong to the interval when its double has an even mantissa.
structure Interval where
  low : Nat
  value : Nat
  high : Nat
  unit : Nat
  closed : Bool

namespace Interval

-- The interval of mantissa * 2 ^ exponent on the grid of 10 ^ grid. Ends are
-- counted in quarters of the last binary place; below a power of two the
-- neighbour is half as far away, except at the bottom of the range.
def ofDouble (mantissa : Nat) (exponent grid : Int) : Interval :=
  let narrow := mantissa = 1 <<< 52 ∧ exponent ≠ -1074
  let scale := Nat.pow 2 (exponent - 2).toNat * Nat.pow 10 (-grid).toNat
  { low := (4 * mantissa - if narrow then 1 else 2) * scale
    value := 4 * mantissa * scale
    high := (4 * mantissa + 2) * scale
    unit := Nat.pow 2 (2 - exponent).toNat * Nat.pow 10 grid.toNat
    closed := mantissa % 2 = 0 }

def holds (i : Interval) (point : Nat) : Bool :=
  let x := point * i.unit
  (i.low < x && x < i.high) || (i.closed && (x == i.low || x == i.high))

-- The point of the grid in the interval that is nearest to the double, the
-- upper one if two are equally near. If any point lies in the interval, one of
-- the double's two neighbours does.
def nearest? (i : Interval) : Option Nat :=
  let below := i.value / i.unit
  match i.holds below, i.holds (below + 1) with
  | true, true =>
    some (if 2 * i.value < (2 * below + 1) * i.unit then below else below + 1)
  | true, false => some below
  | false, true => some (below + 1)
  | false, false => none

end Interval

-- Grids are tried from the coarsest on, so the first that meets the interval
-- gives the fewest digits.
def firstHit (mantissa : Nat) (exponent : Int) : Nat → Int → Option Decimal
  | 0, _ => none
  | fuel + 1, grid =>
    match (Interval.ofDouble mantissa exponent grid).nearest? with
    | some digits => some ⟨digits, grid⟩
    | none => firstHit mantissa exponent fuel (grid - 1)

-- The value written out in full.
def exactly (mantissa : Nat) (exponent : Int) : Decimal :=
  if 0 ≤ exponent then ⟨mantissa * Nat.pow 2 exponent.toNat, 0⟩
  else ⟨mantissa * Nat.pow 5 (-exponent).toNat, exponent⟩

-- The shortest decimal that reads back as mantissa * 2 ^ exponent. The search
-- starts above the leading digit, and seventeen digits always suffice.
def shortest (mantissa : Nat) (exponent : Int) : Decimal :=
  let start := (mantissa.log2 + exponent) * 30103 / 100000 + 2
  (firstHit mantissa exponent 21 start).getD (exactly mantissa exponent)

end Skirmish.Decimal
