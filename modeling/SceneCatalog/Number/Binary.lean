/-
This file takes a double apart into sign, significand and binary exponent.
-/

namespace SceneCatalog.Number

/-- The finite double `±significand · 2 ^ exponent`. -/
structure Binary where
  negative : Bool
  significand : Nat
  exponent : Int
  deriving Repr, DecidableEq

/-- Every double is a number, an infinity or no number. -/
inductive Parts where
  | nan
  | infinite (negative : Bool)
  | finite (binary : Binary)
  deriving Repr, DecidableEq

/-- The fields of a double are one sign bit, eleven exponent bits and fifty-two fraction bits. -/
def Parts.ofBits (bits : Nat) : Parts :=
  let negative := bits / Nat.pow 2 63 == 1
  let field : Nat := bits / Nat.pow 2 52 % Nat.pow 2 11
  let fraction : Nat := bits % Nat.pow 2 52
  if field == 2047 then
    if fraction == 0 then .infinite negative else .nan
  else if field == 0 then
    .finite ⟨negative, fraction, -1074⟩
  else
    .finite ⟨negative, Nat.pow 2 52 + fraction, (field : Int) - 1075⟩

def Parts.ofFloat (number : Float) : Parts := ofBits number.toBits.toNat

end SceneCatalog.Number
