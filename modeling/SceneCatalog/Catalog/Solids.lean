import SceneCatalog.Catalog.Rules

/-
This file describes the plain solids.
-/

namespace SceneCatalog.Catalog

open Rules

def box : ClassTable where
  location := ⟨"povgen_schema::tables::objects", "BOX"⟩
  name := "Box"
  superclass := "Primitive"
  immutables := finiteSolid
  attributes := [
    point "corner1" |>.needed |>.described "The first of two opposite corners of the cube.",
    point "corner2" |>.needed |>.described "The second of two opposite corners of the cube."]

def cone : ClassTable where
  location := ⟨"povgen_schema::tables::objects", "CONE"⟩
  name := "Cone"
  superclass := "Primitive"
  immutables := finiteSolid
  attributes := [
    point "basePoint" |>.needed |>.described "Center of the cone's base end.",
    number "baseRadius" |>.needed |>.described "Radius of the cone's base end.",
    point "capPoint" |>.needed |>.described "Center of the cone's cap end.",
    number "capRadius" |>.needed
      |>.described
        "Radius of the cone's cap end. When non-zero the shape is technically a frustum.",
    flag "open" |>.described "If true, the base and the cap are left open."]

def cylinder : ClassTable where
  location := ⟨"povgen_schema::tables::objects", "CYLINDER"⟩
  name := "Cylinder"
  superclass := "Primitive"
  immutables := finiteSolid
  attributes := [
    point "basePoint" |>.needed |>.described "Center of the base end of the cylinder.",
    point "capPoint" |>.needed |>.described "Center of the cap end of the cylinder.",
    number "radius" |>.needed |>.described "Radius of the cylinder.",
    flag "open" |>.described "If true, the cap and base planes are left open.",
    number "strength" |>.described "Field strength when the cylinder is a blob component."]

def ovus : ClassTable where
  location := ⟨"povgen_schema::tables::objects", "OVUS"⟩
  name := "Ovus"
  superclass := "Primitive"
  immutables := finiteSolid
  attributes := [
    number "bottomRadius" |>.needed |>.described "Radius of the bottom sphere.",
    number "topRadius" |>.needed |>.described "Radius of the top sphere."]

def plane : ClassTable where
  location := ⟨"povgen_schema::tables::objects", "PLANE"⟩
  name := "Plane"
  superclass := "Primitive"
  immutables := infiniteSolid
  attributes := [
    point "normal" |>.needed |>.described "Surface normal of the plane.",
    number "distance" |>.needed
      |>.described "Distance of the plane from the origin along the normal."]

def sphere : ClassTable where
  location := ⟨"povgen_schema::tables::objects", "SPHERE"⟩
  name := "Sphere"
  superclass := "Primitive"
  immutables := finiteSolid
  attributes := [
    point "center" |>.needed |>.described "Center point of the sphere.",
    number "radius" |>.needed |>.described "Radius of the sphere.",
    number "strength" |>.described "Field strength when the sphere is a blob component."]

def superellipsoid : ClassTable where
  location := ⟨"povgen_schema::tables::objects", "SUPERELLIPSOID"⟩
  name := "Superellipsoid"
  superclass := "Primitive"
  immutables := finiteSolid
  attributes := [
    checked "e" "float" (.moreThan 0) "e must be a float greater than zero." |>.needed
      |>.described "The east-west exponent.",
    checked "n" "float" (.moreThan 0) "n must be a float greater than zero." |>.needed
      |>.described "The north-south exponent."]

def text : ClassTable where
  location := ⟨"povgen_schema::tables::objects", "TEXT"⟩
  name := "Text"
  superclass := "Primitive"
  immutables := finiteSolid
  attributes := [
    checked "fontType" "string" (.key Vocabulary.fontTypes)
        "fontType must be one of internal, ttc, or ttf."
      |>.needed
      |>.described "File format of the font.",
    words "font" |>.needed |>.described "Filename of the font.",
    words "displayText" |>.needed |>.described "The text to be rendered.",
    number "thickness" |>.needed
      |>.described "Front-to-back thickness of the extruded characters.",
    number "offset" |>.needed |>.described "Extra space placed between characters, 0 for none."]

def torus : ClassTable where
  location := ⟨"povgen_schema::tables::objects", "TORUS"⟩
  name := "Torus"
  superclass := "Primitive"
  immutables := finiteSolid
  attributes := [
    number "majorRadius" |>.needed
      |>.described "Radius of the circle along which the cross section is swept.",
    number "minorRadius" |>.needed |>.described "Radius of the cross section.",
    sturm]

end SceneCatalog.Catalog
