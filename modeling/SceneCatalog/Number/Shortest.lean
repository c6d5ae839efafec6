import SceneCatalog.Number.Binary

/-
This file finds the fewest decimal digits that read back as a given double.
-/

namespace SceneCatalog.Number

/-- The decimal `digits · 10 ^ exponent`. -/
structure Decimal where
  digits : Nat
  exponent : Int
  deriving Repr, DecidableEq

/-- When two decimals are equally near, the choice is the larger or the even one. -/
inductive Tie where
  | larger
  | even
  deriving Repr, DecidableEq

/-- The interval that reads back as one double, in units of `2 ^ exponent`. -/
structure Interval where
  low : Nat
  middle : Nat
  high : Nat
  closed : Bool
  exponent : Int

/-- Below a power of two the neighbouring double is half as far away. -/
def Binary.interval (binary : Binary) : Interval where
  low :=
    if binary.significand == Nat.pow 2 52 && binary.exponent != -1074 then
      4 * binary.significand - 1
    else 4 * binary.significand - 2
  middle := 4 * binary.significand
  high := 4 * binary.significand + 2
  closed := binary.significand % 2 == 0
  exponent := binary.exponent - 2

/-- The neighbours of the interval's middle on the grid `10 ^ power` that lie inside it; of two
the nearer one is taken. -/
def Interval.onGrid (interval : Interval) (tie : Tie) (power : Int) : Option Nat :=
  let scale := Nat.pow 2 interval.exponent.toNat * Nat.pow 10 (-power).toNat
  let unit := Nat.pow 10 power.toNat * Nat.pow 2 (-interval.exponent).toNat
  let inside (candidate : Nat) : Bool :=
    let position := candidate * unit
    if interval.closed then interval.low * scale ≤ position && position ≤ interval.high * scale
    else interval.low * scale < position && position < interval.high * scale
  let middle := interval.middle * scale
  let below := middle / unit
  let above := below + 1
  match inside below && below != 0, inside above with
  | true, true =>
    let toBelow := middle - below * unit
    let toAbove := above * unit - middle
    if toBelow < toAbove then some below
    else if toAbove < toBelow then some above
    else match tie with
      | .larger => some above
      | .even => some (if below % 2 == 0 then below else above)
  | true, false => some below
  | false, true => some above
  | false, false => none

/-- The search tries ever finer grids. -/
def Interval.search (interval : Interval) (tie : Tie) : Nat → Int → Decimal
  | 0, power => ⟨interval.middle, power⟩
  | grids + 1, power =>
    match interval.onGrid tie power with
    | some digits => ⟨digits, power⟩
    | none => interval.search tie grids (power - 1)

/-- Twenty-two grids from one above the leading digit are enough for every double. -/
def Binary.shortest (binary : Binary) (tie : Tie) : Decimal :=
  if binary.significand == 0 then ⟨0, 0⟩
  else
    let leading := ((binary.significand.log2 : Int) + binary.exponent) * 30103 / 100000
    binary.interval.search tie 22 (leading + 2)

end SceneCatalog.Number
