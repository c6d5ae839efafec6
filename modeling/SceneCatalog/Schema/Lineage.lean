import SceneCatalog.Schema.ClassTable

/-
This file follows the superclasses of a class.
-/

namespace SceneCatalog

abbrev Catalog := List ClassTable

namespace Catalog

def find? (catalog : Catalog) (name : String) : Option ClassTable :=
  List.find? (fun table => table.name == name) catalog

/-- Superclasses are followed up to a class already seen. Every step sees a new name of the
catalog, so as many steps as it has classes are enough. -/
def climb (catalog : Catalog) : Nat → List String → Option ClassTable → List ClassTable
  | 0, _, _ => []
  | _ + 1, _, none => []
  | steps + 1, seen, some table =>
    if seen.contains table.name then []
    else table :: catalog.climb steps (table.name :: seen) (table.superclass.bind catalog.find?)

/-- The class and its ancestors, nearest first; an unknown superclass ends the line. -/
def lineage (catalog : Catalog) (name : String) : List ClassTable :=
  catalog.climb catalog.length [] (catalog.find? name)

end Catalog

end SceneCatalog
