import SceneCatalog.Catalog.Rules

/-
This file describes the surfaces that enclose no volume.
-/

namespace SceneCatalog.Catalog

open Rules

def bicubicPatch : ClassTable where
  location := ⟨"povgen_schema::tables::objects", "BICUBIC_PATCH"⟩
  name := "BicubicPatch"
  superclass := "Primitive"
  immutables := finiteSurface
  attributes := [
    checked "type" "integer" (.intWithin 0 1) "type must be either 0 or 1." |>.needed
      |>.described
        ("Type 0 reduces the memory used to store the patch at the cost of slower rendering. " ++
         "Type 1 does the reverse."),
    coerced "points" "[VectorXYZ]" (.vectors .xyz 16 (some 16))
        "points must be an array of 16 VectorXYZ."
      |>.needed
      |>.described "The 16 control points of the 4 x 4 patch.",
    integer "uSteps" |>.described "Number of rows of triangles used to create the patch.",
    integer "vSteps" |>.described "Number of columns of triangles used to create the patch.",
    checked "flatness" "float" (.within 0 1)
        "flatness must be a float in the unit interval (0.0 - 1.0)."
      |>.described
        ("At 0 (the default) the patch is subdivided only as specified by uSteps and vSteps. " ++
         "Values up to 1.0 allow further automatic subdivision.")]

def disc : ClassTable where
  location := ⟨"povgen_schema::tables::objects", "DISC"⟩
  name := "Disc"
  superclass := "Primitive"
  immutables := finiteSurface
  attributes := [
    point "center" |>.needed |>.described "Center point of the disc.",
    point "normal" |>.needed |>.described "Normal, i.e. orientation, of the disc.",
    number "radius" |>.needed |>.described "Radius of the disc.",
    number "holeRadius" |>.described "Radius of the hole in the center of the disc."]

def mesh : ClassTable where
  location := ⟨"povgen_schema::tables::objects", "MESH"⟩
  name := "Mesh"
  superclass := "Primitive"
  immutables := finiteSurface
  attributes := [
    checked "triangles" "[Triangle]" (.list 1 none (.ofClass ["Triangle"]))
        "triangles must be an array of Triangles."
      |>.needed
      |>.described "The triangles comprising the mesh.",
    point "insideVector" |>.described "Direction used to determine the inside of a closed mesh.",
    hierarchy]

def polygon : ClassTable where
  location := ⟨"povgen_schema::tables::objects", "POLYGON"⟩
  name := "Polygon"
  superclass := "Primitive"
  immutables := finiteSurface
  attributes := [
    coerced "points" "[VectorXY]" (.vectors .xy 3 none)
        "points must be an array of three or more VectorXY."
      |>.needed
      |>.described "Vertices of the polygon; repeat the first point to close a sub-polygon."]

def triangle : ClassTable where
  location := ⟨"povgen_schema::tables::objects", "TRIANGLE"⟩
  name := "Triangle"
  superclass := "Primitive"
  description :=
    ("The Triangle class combines POV-Ray's triangle and smooth_triangle based on the supplied " ++
     "parameters and the smooth flag.")
  immutables := finiteSurface
  attributes := [
    point "corner1" |>.needed |>.described "First corner of the triangle.",
    point "corner2" |>.needed |>.described "Second corner of the triangle.",
    point "corner3" |>.needed |>.described "Third corner of the triangle.",
    flag "smooth"
      |>.described
        ("If true and normal1 through normal3 are defined, the triangle is output as a smooth " ++
         "triangle."),
    point "normal1" |>.described "Surface normal at corner1.",
    point "normal2" |>.described "Surface normal at corner2.",
    point "normal3" |>.described "Surface normal at corner3.",
    checked "textures" "[integer]" (.list 1 (some 3) .int)
        "textures must be an array of one to three integers."
      |>.described "Texture indices for a triangle inside a mesh."]

end SceneCatalog.Catalog
