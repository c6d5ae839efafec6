import SceneCatalog.Number.Shortest

/-
This file lays the shortest digits of a double out as text.
-/

namespace SceneCatalog.Number

/-- The choices of one way to write doubles. -/
structure Format where
  /-- Numbers whose leading digit has a place in this range are written without an exponent. -/
  positional : Option (Int × Int)
  /-- Whole numbers keep a final `.0`. -/
  keepsPoint : Bool
  /-- A positive exponent has a sign. -/
  plusSign : Bool
  tie : Tie

def zeros (count : Nat) : String := "".pushn '0' count

/-- The digits with the point after the leading `whole` places. -/
def Decimal.positional (decimal : Decimal) (keepsPoint : Bool) : String :=
  let text := toString decimal.digits
  match decimal.exponent with
  | .ofNat trailing => text ++ zeros trailing ++ (if keepsPoint then ".0" else "")
  | .negSucc places =>
    let places := places + 1
    let padded := if text.length ≤ places then zeros (places + 1 - text.length) ++ text else text
    let whole := padded.length - places
    String.ofList (padded.toList.take whole) ++ "." ++ String.ofList (padded.toList.drop whole)

/-- The place of the leading digit. -/
def Decimal.leading (decimal : Decimal) : Int :=
  decimal.exponent + (toString decimal.digits).length - 1

/-- One digit before the point, the others after it, then the exponent. -/
def Decimal.scientific (decimal : Decimal) (plusSign : Bool) : String :=
  let mantissa := match (toString decimal.digits).toList with
    | [] => ""
    | [digit] => String.ofList [digit]
    | digit :: rest => String.ofList (digit :: '.' :: rest)
  let sign := if decimal.leading < 0 then "-" else if plusSign then "+" else ""
  mantissa ++ "e" ++ sign ++ toString decimal.leading.natAbs

def Format.decimal (format : Format) (decimal : Decimal) : String :=
  match format.positional with
  | none => decimal.positional format.keepsPoint
  | some (low, high) =>
    if decimal.digits == 0 || (low ≤ decimal.leading && decimal.leading ≤ high) then
      decimal.positional format.keepsPoint
    else decimal.scientific format.plusSign

def Format.write (format : Format) (number : Float) : String :=
  match Parts.ofFloat number with
  | .nan => "NaN"
  | .infinite negative => if negative then "-inf" else "inf"
  | .finite binary =>
    (if binary.negative then "-" else "") ++ format.decimal (binary.shortest format.tie)

/-- Never an exponent, and no point in whole numbers. -/
def plain : Format := ⟨none, false, false, .larger⟩

/-- Always a point, and an exponent outside of the places -4 to 15. -/
def pointed : Format := ⟨some (-4, 15), true, false, .larger⟩

/-- Finite numbers as JSON has them. -/
def json : Format := ⟨some (-5, 15), true, true, .even⟩

/-- Always a point and never an exponent. -/
def literal : Format := ⟨none, true, false, .larger⟩

end SceneCatalog.Number
