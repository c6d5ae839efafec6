import SceneCatalog.Catalog.Rules

/-
This file describes the objects that are made of other objects.
-/

namespace SceneCatalog.Catalog

open Rules

def blob : ClassTable where
  location := ⟨"povgen_schema::tables::objects", "BLOB"⟩
  name := "Blob"
  superclass := "Primitive"
  immutables := finiteSolid
  attributes := [
    checked "components" "[Sphere|Cylinder]" (.list 1 none (.ofClass ["Sphere", "Cylinder"]))
        "components must be an array of Spheres and/or Cylinders."
      |>.needed
      |>.described "Spheres and cylinders, optionally with their strength attributes set.",
    number "threshold"
      |>.described
        "Field strength that distinguishes between the inside and outside of the blob.",
    sturm,
    hierarchy]

def difference : ClassTable where
  location := ⟨"povgen_schema::tables::objects", "DIFFERENCE"⟩
  name := "Difference"
  superclass := "Primitive"
  immutables := constructive
  attributes := [
    checked "positiveComponent" "Primitive" (.descendant "Primitive")
        "positiveComponent must be a Primitive."
      |>.needed
      |>.described "Base object from which the negative components are subtracted.",
    checked "negativeComponents" "[Primitive]" (.list 1 none (.descendant "Primitive"))
        "negativeComponents must be an array of Primitives."
      |>.needed
      |>.described "Objects subtracted from the positive component."]

def intersection : ClassTable where
  location := ⟨"povgen_schema::tables::objects", "INTERSECTION"⟩
  name := "Intersection"
  superclass := "Primitive"
  immutables := constructive
  attributes := [
    checked "components" "[Primitive]" (.list 1 none (.descendant "Primitive"))
        "components must be an array of Primitives."
      |>.needed
      |>.described "Objects whose intersection produces the result."]

def merge : ClassTable where
  location := ⟨"povgen_schema::tables::objects", "MERGE"⟩
  name := "Merge"
  superclass := "Primitive"
  immutables := constructive
  attributes := [
    checked "components" "[Primitive]" (.list 1 none (.descendant "Primitive"))
        "components must be an array of Primitives."
      |>.needed
      |>.described "Objects to merge."]

def union : ClassTable where
  location := ⟨"povgen_schema::tables::objects", "UNION"⟩
  name := "Union"
  superclass := "Primitive"
  immutables := constructive
  attributes := [
    checked "components" "[Primitive]" (.list 1 none (.descendant "Primitive"))
        "components must be an array of Primitives."
      |>.needed
      |>.described "Objects combined by the union.",
    flag "splitUnion"
      |>.described
        ("If the composite object lacks holes, setting this to false can speed up rendering. " ++
         "Defaults to true.")]

end SceneCatalog.Catalog
