import SceneCatalog.Text.Blank

/-
This file breaks a paragraph into lines.
-/

namespace SceneCatalog.Text

/-- The words of each line, given those of the line begun, last word first, and its length. -/
def fillFrom (width : Nat) (line : List String) (length : Nat) :
    List String → List (List String)
  | [] => if line.isEmpty then [] else [line.reverse]
  | word :: rest =>
    if line.isEmpty then fillFrom width [word] word.length rest
    else if length + 1 + word.length > width then
      line.reverse :: fillFrom width [word] word.length rest
    else fillFrom width (word :: line) (length + 1 + word.length) rest

/-- Each line takes as many words as fit; a word wider than a line stands alone. -/
def fill (width : Nat) (words : List String) : List (List String) := fillFrom width [] 0 words

def wrap (text lead : String) (width : Nat) : String :=
  let filled := fill width ((words text.toList).map String.ofList)
  "\n".intercalate (filled.map fun line => lead ++ " ".intercalate line)

end SceneCatalog.Text
