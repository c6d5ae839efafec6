/-
This file pads text and lines up the columns of a table.
-/

namespace SceneCatalog.Text

/-- An indentation of many units. -/
def indent (unit : String) (stops : Nat) : String := String.join (List.replicate stops unit)

inductive Side where
  | left
  | right
  deriving Repr, DecidableEq

def pad (text : String) (count : Nat) (filler : Char) : Side → String
  | .left => "".pushn filler count ++ text
  | .right => text ++ "".pushn filler count

/-- The first row whose number of cells is not that of the top row. -/
structure RaggedRow where
  row : Nat
  expected : Nat
  found : Nat
  deriving Repr, DecidableEq

def RaggedRow.message (ragged : RaggedRow) : String :=
  "row " ++ toString ragged.row ++ " has " ++ toString ragged.found ++ " cells, expected " ++
    toString ragged.expected

def findRagged (expected row : Nat) : List (List String) → Option RaggedRow
  | [] => none
  | cells :: rest =>
    if cells.length == expected then findRagged expected (row + 1) rest
    else some ⟨row, expected, cells.length⟩

/-- The number of characters in the widest cell of each column. -/
def columnWidths (columns : Nat) (rows : List (List String)) : List Nat :=
  rows.foldl (fun widths cells => widths.zipWith (fun width cell => max width cell.length) cells)
    (List.replicate columns 0)

def alignRow (widths : List Nat) (cells : List String) : String :=
  String.join (widths.zipWith (fun width cell => pad cell (width - cell.length) ' ' .right) cells)

/-- Each cell is padded to the width of its column, and nothing stands between the columns. -/
def align (rows : List (List String)) : Except RaggedRow String :=
  match rows with
  | [] => .ok ""
  | top :: _ =>
    match findRagged top.length 0 rows with
    | some ragged => .error ragged
    | none => .ok ("\n".intercalate (rows.map (alignRow (columnWidths top.length rows))))

end SceneCatalog.Text
