import SceneCatalog.Schema.Lineage
import SceneCatalog.Schema.Report
import SceneCatalog.Text.Columns
import SceneCatalog.Text.Paragraph
import SceneCatalog.Text.Printing
import SceneCatalog.Text.Quoted

/-
This file lists and describes classes.
-/

namespace SceneCatalog

/-- Aligned rows, one a line, without blanks at the ends of lines. -/
def tableText (rows : List (List String)) : Except Text.RaggedRow String := do
  let aligned ← Text.align rows
  return String.join ((Text.lines aligned).map fun line =>
    String.ofList (Text.trimEnd line.toList) ++ "\n")

/-- A row for each class, below the headings. -/
def Catalog.listing (catalog : Catalog) : Except Text.RaggedRow String :=
  tableText (["CLASS", "EXTENDS", "IMMUTABLE", "MUTABLE"] :: catalog.map fun table =>
    [table.name, table.superclass.getD "-", toString table.immutables.length,
      toString table.attributes.length])

def Constant.describe : Constant → String
  | .null => "null"
  | .bool flag => if flag then "true" else "false"
  | .int number => toString number.toInt
  | .float number => Number.pointed.write number
  | .text content => Text.inspect content

def Immutable.row (immutable : Immutable) : List String :=
  ["  " ++ immutable.name, immutable.value.describe]

def Attribute.row (declared : Attribute) : List String :=
  ["  " ++ declared.name, declared.typeName, if declared.required then "required" else "",
    (declared.initial.map Constant.describe).getD "", declared.description.getD ""]

def ClassTable.describe (table : ClassTable) : Except Text.RaggedRow String := do
  let immutables ← tableText (table.immutables.map Immutable.row)
  let attributes ← tableText (table.attributes.map Attribute.row)
  return table.name ++ "\n" ++
    (match table.superclass with
      | some superclass => "extends " ++ superclass ++ "\n"
      | none => "") ++
    "\n" ++ Text.wrap table.descriptionOrName "" 77 ++ "\n" ++
    (if table.immutables.isEmpty then "" else "\nRead-only:\n" ++ immutables) ++
    "\nAttributes:\n" ++ attributes

end SceneCatalog
