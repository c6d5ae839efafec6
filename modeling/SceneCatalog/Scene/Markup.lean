import SceneCatalog.Text.Columns

/-
This file lays blocks of scene text out with their indentation.
-/

namespace SceneCatalog

/-- A line, or a keyword with what stands in its braces. A comment may stand above a block. -/
inductive Markup where
  | line (text : String)
  | block (comment : Option String) (keyword : String) (body : List Markup)

namespace Markup

/-- One indentation of the scene language has four blanks. -/
def tab (stops : Nat) : String := Text.indent "    " stops

def commentLine (margin : String) : Option String → String
  | some comment => margin ++ "// " ++ comment ++ "\n"
  | none => ""

mutual

def write (stops : Nat) : Markup → String
  | line text => tab stops ++ text
  | block comment keyword body =>
    let margin := tab stops
    commentLine margin comment ++ margin ++ keyword ++
      match writeAll (stops + 1) body with
      | [] => " \x7b \x7d"
      | lines => " \x7b\n" ++ "\n".intercalate lines ++ "\n" ++ margin ++ "\x7d"

def writeAll (stops : Nat) : List Markup → List String
  | [] => []
  | markup :: rest => write stops markup :: writeAll stops rest

end

end Markup

end SceneCatalog
