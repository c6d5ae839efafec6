/-
This file tells whether a number lies in one of many ranges.
-/

namespace SceneCatalog.Text

/-- The list has the first number of each range and the first number after it, ascending. -/
def inRanges : List Nat → Nat → Bool
  | first :: after :: rest, number =>
    if number < first then false else if number < after then true else inRanges rest number
  | [first], number => first ≤ number
  | [], _ => false

/-- Numbers at equal distances, all moved by the same offset. -/
structure Run where
  first : Nat
  last : Nat
  step : Nat
  offset : Int

def Run.contains (run : Run) (number : Nat) : Bool :=
  run.first ≤ number && number ≤ run.last && (number - run.first) % max run.step 1 == 0

end SceneCatalog.Text
