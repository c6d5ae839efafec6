import SceneCatalog.Schema.Naming
import SceneCatalog.Source.Token

/-
This file holds the identifiers of generated code.
-/

namespace SceneCatalog.Source

/-- The text is one word that the parser takes for a name. -/
def isName (text : String) : Bool :=
  match Token.scan text with
  | some [.word name] => !Text.refusedWords.contains name
  | some [.rawWord _] => true
  | _ => false

/-- The field of an attribute and the method that reads it, marked when it is no plain name. -/
def fieldIdent (attributeName : String) : String :=
  let method := Naming.methodName attributeName
  if isName method then method else "r#" ++ method

def setterIdent (attributeName : String) : String := "set_" ++ Naming.methodName attributeName

def moduleIdent (className : String) : String := Naming.snakeName className ++ "_class"

end SceneCatalog.Source
