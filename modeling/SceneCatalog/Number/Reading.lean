/-
This file reads the decimal text of a double.
-/

namespace SceneCatalog.Number

/-- An optional sign and what follows it. -/
def splitSign : List Char → Bool × List Char
  | '-' :: rest => (true, rest)
  | '+' :: rest => (false, rest)
  | rest => (false, rest)

def digitValue (digits : List Char) : Nat :=
  digits.foldl (fun value digit => 10 * value + (digit.toNat - '0'.toNat)) 0

/-- Signed digits after an exponent mark; at least one digit is needed. -/
def readExponent (text : List Char) : Option Int :=
  let (negative, digits) := splitSign text
  if digits.isEmpty || !digits.all Char.isDigit then none
  else some (if negative then -(digitValue digits : Int) else digitValue digits)

/-- Exponents far outside of the range of doubles give zero or infinity at once. -/
def scaled (digits : Nat) (exponent : Int) : Float :=
  let leading := exponent + (toString digits).length
  if digits == 0 || leading < -400 then 0
  else if leading > 400 then 1 / 0
  else if exponent < 0 then Float.ofScientific digits true exponent.natAbs
  else Float.ofScientific digits false exponent.natAbs

def readMagnitude (text : List Char) : Option Float :=
  match String.ofList (text.map Char.toLower) with
  | "nan" => some (0 / 0)
  | "inf" | "infinity" => some (1 / 0)
  | _ =>
    let whole := text.takeWhile Char.isDigit
    let rest := text.dropWhile Char.isDigit
    let (fraction, rest) := match rest with
      | '.' :: rest => (rest.takeWhile Char.isDigit, rest.dropWhile Char.isDigit)
      | rest => ([], rest)
    if whole.isEmpty && fraction.isEmpty then none
    else
      let exponent? := match rest with
        | [] => some 0
        | mark :: rest => if mark == 'e' || mark == 'E' then readExponent rest else none
      exponent?.map fun exponent =>
        scaled (digitValue (whole ++ fraction)) (exponent - fraction.length)

/-- A sign, then digits with an optional point and exponent, or the name of a special value. -/
def read? (text : String) : Option Float :=
  let (negative, rest) := splitSign text.toList
  (readMagnitude rest).map fun magnitude => if negative then -magnitude else magnitude

end SceneCatalog.Number
