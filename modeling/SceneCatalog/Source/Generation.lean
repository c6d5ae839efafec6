import SceneCatalog.Schema.Review
import SceneCatalog.Source.ClassText
import SceneCatalog.Source.Syntax

/-
This file generates the source of all classes of a catalog.
-/

namespace SceneCatalog.Source

/-- Tables with faults generate nothing. -/
inductive GenerationError where
  | faults (issues : Issues)
  | layout (className : String) (error : ClassError)
  | unreadable

def GenerationError.message : GenerationError → String
  | faults issues => "schema validation failed:\n" ++ issues.text
  | layout className error => "formatting " ++ className ++ ": " ++ error.message
  | unreadable => "generated code does not parse"

/-- The imports that generated code starts with. -/
def preamble : String :=
  "// Generated by povgen-build from the povgen-schema catalog. Do not edit.\n\n" ++
  "use ::povgen_core::\x7bError, Options, Slot, Value\x7d;\n" ++
  "use ::povgen_schema::\x7bClass, EntityDescriptor\x7d;\n"

/-- A class in a module of its own, then the declaration that exports it. -/
def moduleText (table : ClassTable) (style : Style) : Except ClassError String := do
  let module := moduleIdent table.name
  let inside ← style.deeper?.elim (.error .tooDeep) .ok
  let head ← writeLines style
    [.code 0 ("mod " ++ module ++ opening), .code 1 "use super::*;", .blank]
  let inner ← classText table inside
  let tail ← writeLines style
    [.code 0 closing, .blank, .code 0 ("pub use " ++ module ++ "::" ++ table.name ++ ";")]
  return head ++ "\n" ++ inner ++ "\n" ++ tail ++ "\n"

/-- The modules stand in the order of the catalog. -/
def generate (catalog : Catalog) (style : Style) : Except GenerationError String := do
  match catalog.review with
  | .error issues => throw (.faults issues)
  | .ok () =>
    let modules ← catalog.mapM fun table =>
      (moduleText table style).mapError (GenerationError.layout table.name)
    return preamble ++ String.join (modules.map fun text => "\n" ++ text ++ "\n")

/-- Code that cannot be read is an error if the check is on. -/
def render (catalog : Catalog) (style : Style) (checksSyntax : Bool) :
    Except GenerationError String := do
  let source ← generate catalog style
  if checksSyntax && !isSource source then throw .unreadable else return source

end SceneCatalog.Source
