/-
This file holds the ways in which an object refuses an assignment or cannot be written.
-/

namespace SceneCatalog

/-- Each refusal names the class that it comes from. -/
inductive SceneError where
  | invalid (className name complaint : String)
  | readOnly (className name : String)
  | missingRequired (className name : String)
  | serialize (className complaint : String)
  | unknownAttribute (className name : String)
  deriving Repr, DecidableEq

namespace SceneError

def className : SceneError → String
  | invalid className _ _ => className
  | readOnly className _ => className
  | missingRequired className _ => className
  | serialize className _ => className
  | unknownAttribute className _ => className

def attributeName? : SceneError → Option String
  | invalid _ name _ => some name
  | readOnly _ name => some name
  | missingRequired _ name => some name
  | serialize _ _ => none
  | unknownAttribute _ name => some name

def message (error : SceneError) : String :=
  "[" ++ error.className ++ "]: " ++ match error with
    | invalid _ _ complaint => complaint
    | readOnly _ name => name ++ " is a read-only property."
    | missingRequired _ name => name ++ " is a required attribute."
    | serialize _ complaint => complaint
    | unknownAttribute _ name => "unknown attribute '" ++ name ++ "'"

end SceneError

end SceneCatalog
