import SceneCatalog.Scene.Clause

/-
This file holds the clauses that the objects of a scene share.
-/

namespace SceneCatalog.Layout

/-- The modifiers that every object inherits, in the order that the renderer wants them. -/
def modifiers : List Clause := [
  .bare "texture", .bare "material", .bare "interior",
  .nested "clippedBy" "clipped_by", .nested "boundedBy" "bounded_by",
  .flag "doubleIlluminate" "double_illuminate", .flag "hollow" "hollow",
  .flag "inverse" "inverse", .flag "noImage" "no_image", .flag "noRadiosity" "no_radiosity",
  .flag "noReflection" "no_reflection", .flag "noShadow" "no_shadow",
  .bare "photons", .bare "radiosity", .bare "transform"]

/-- The clauses of an object and its modifiers. -/
def material (keyword : String) (clauses : List Clause) : Layout :=
  ⟨fun _ => keyword, [.always clauses, .always modifiers]⟩

/-- Cameras and lights have no material and are only transformed. -/
def immaterial (keyword : String) (sections : List Section) : Layout :=
  ⟨fun _ => keyword, sections ++ [.always [.bare "transform"]]⟩

def hierarchy : Clause := .toggle "hierarchy" "hierarchy"

def solver : List Clause := [.flag "sturm" "sturm", hierarchy]

/-- The values of attributes with commas between them. -/
def values (names : List String) : List Piece := (names.map Piece.value).intersperse (.words ", ")

end SceneCatalog.Layout
