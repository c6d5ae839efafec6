import SceneCatalog.Text.Blank
import SceneCatalog.Text.Columns
import SceneCatalog.Text.Paragraph

/-
This file lays out the lines of generated code.
-/

namespace SceneCatalog.Source

/-- Rules are drawn in comments. -/
inductive Rule where
  | single
  | double
  deriving Repr, DecidableEq

namespace Rule

def mark : Rule → Char
  | single => '-'
  | double => '='

/-- The longest rule there is. -/
def template (rule : Rule) : List Char := '/' :: '/' :: List.replicate 130 rule.mark

/-- A rule that ends in the column of the width, unless the template is shorter. -/
def draw (unit : String) (stops : Nat) (rule : Rule) (width : Nat) : String :=
  let margin := Text.indent unit stops
  margin ++ String.ofList (rule.template.take (width - margin.length))

end Rule

/-- The depth is the number of blocks that the code stands in. Like widths it is counted in 64
bits, which `Style.holds` and `Style.deeper?` make sure of. -/
structure Style where
  indent : String := "    "
  dividerWidth : Nat := 80
  wrapWidth : Nat := 77
  depth : Nat := 0
  deriving Repr, DecidableEq

namespace Style

def standard : Style := {}

/-- The number of indentations in front of a line. -/
def level (style : Style) (stops : Nat) : Nat := style.depth + stops

def tab (style : Style) (stops : Nat) : String := Text.indent style.indent (style.level stops)

/-- The margin can be written: its level is counted in 64 bits, and its bytes in 63. -/
def holds (style : Style) (stops : Nat) : Bool :=
  style.level stops < Nat.pow 2 64 && style.level stops * style.indent.utf8ByteSize < Nat.pow 2 63

/-- The style of a block inside; there is none behind the last level. -/
def deeper? (style : Style) : Option Style :=
  if style.level 1 < Nat.pow 2 64 then some { style with depth := style.level 1 } else none

end Style

/-- A line of code, a blank line, a rule, a paragraph in comments, or rows of aligned cells. -/
inductive Line where
  | code (stops : Nat) (text : String)
  | blank
  | rule (stops : Nat) (rule : Rule)
  | paragraph (text : String)
  | rows (stops : Nat) (rows : List (List String))

namespace Line

/-- The stops in front of a line; paragraphs have none. -/
def stops : Line → Nat
  | code stops _ => stops
  | blank => 0
  | rule stops _ => stops
  | paragraph _ => 0
  | rows stops _ => stops

/-- The margin belongs to the cells, and the padding of last cells is cut off. -/
def alignRows (margin : String) (rows : List (List String)) : Except Text.RaggedRow String := do
  let aligned ← Text.align (rows.map fun cells =>
    match cells with
    | [] => []
    | first :: rest => (margin ++ first) :: rest)
  return "\n".intercalate ((Text.lines aligned).map fun line =>
    String.ofList (Text.trimEnd line.toList))

def write (style : Style) : Line → Except Text.RaggedRow String
  | code stops text => .ok (style.tab stops ++ text)
  | blank => .ok ""
  | rule stops kind => .ok (kind.draw style.indent (style.level stops) style.dividerWidth)
  | paragraph text => .ok (Text.wrap text (style.tab 0 ++ "// ") style.wrapWidth)
  | rows stops cells => alignRows (style.tab stops) cells

def writeAll (style : Style) (lines : List Line) : Except Text.RaggedRow String := do
  return "\n".intercalate (← lines.mapM (write style))

end Line

end SceneCatalog.Source
