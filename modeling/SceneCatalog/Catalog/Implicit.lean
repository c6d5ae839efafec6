import SceneCatalog.Catalog.Rules

/-
This file describes the objects that formulas or images define.
-/

namespace SceneCatalog.Catalog

open Rules

def cubic : ClassTable where
  location := ⟨"povgen_schema::tables::objects", "CUBIC"⟩
  name := "Cubic"
  superclass := "Primitive"
  immutables := infiniteSolid
  attributes := [
    checked "coefficients" "[float]" (.list 20 (some 20) .number)
        "coefficients must be an array of 20 floats."
      |>.needed
      |>.described "The 20 coefficients of a third-order polynomial.",
    sturm]

def heightField : ClassTable where
  location := ⟨"povgen_schema::tables::objects", "HEIGHT_FIELD"⟩
  name := "HeightField"
  superclass := "Primitive"
  immutables := finiteSolid
  attributes := [
    checked "source" "SDL|string" (.either .function .string)
        "source must be an SDL function or a filename."
      |>.needed
      |>.described "Either an SDL function or the path to a graphics file.",
    checked "hfType" "string" (.oneOf Vocabulary.heightFieldTypes)
        "hfType must be one of exr, gif, hdr, iff, jpeg, pgm, png, pot, ppm, sys, tga, or tiff."
      |>.described "File format of the source image.",
    flag "smooth" |>.described "If true, surface normals are smoothed.",
    checked "waterLevel" "float" (.within 0 1)
        "waterLevel must be a float in the unit interval (0.0 - 1.0)."
      |>.described "Height below which the field is hidden. Defaults to 0.0.",
    hierarchy,
    checked "gamma" "float|string" gamma "gamma must be a float or 'sRGB'."
      |>.described "Gamma used to interpret the image file.",
    flag "premultiplied" |>.described "Whether the file stores premultiplied associated alpha."]

def isoSurface : ClassTable where
  location := ⟨"povgen_schema::tables::objects", "ISO_SURFACE"⟩
  name := "IsoSurface"
  superclass := "Primitive"
  immutables := finiteSolid
  attributes := [
    checked "source" "SDL" .function "source must be an SDL function." |>.needed
      |>.described "SDL function code which defines the surface.",
    checked "containedBy" "Sphere|Box" container "containedBy must be a Sphere or a Box."
      |>.described "Sphere or Box bounding the portion of the surface that is rendered.",
    number "threshold"
      |>.described "The surface appears where source equals this value. Defaults to 0.",
    number "accuracy" |>.described "Subdivision accuracy; lower is more accurate.",
    number "maxGradient" |>.described "Maximum gradient of the source function.",
    checked "evaluate" "[float]" (.list 3 (some 3) .number)
        "evaluate must be an array of three floats."
      |>.described "Guides the dynamic adaptation of maxGradient.",
    flag "open"
      |>.described "If true, the boundaries where the surface meets containedBy are left open.",
    checked "maxTrace" "integer|string" maxTrace
        "maxTrace must be either an integer or 'allIntersections'."
      |>.described "Maximum number of intersections checked inside a CSG."]

def juliaFractal : ClassTable where
  location := ⟨"povgen_schema::tables::objects", "JULIA_FRACTAL"⟩
  name := "JuliaFractal"
  superclass := "Primitive"
  immutables := finiteSolid
  attributes := [
    checked "type" "string" (.oneOf Vocabulary.juliaFractalTypes)
        "type must be a quaternion or hypercomplex julia fractal formula."
      |>.needed
      |>.described "Julia fractal formula, e.g. quaternion:sqr or hypercomplex:cube.",
    vector .xyzw "juliaParam" |>.needed
      |>.described "The standard julia parameter p in f(h) + p.",
    vector .xy "power" |>.described "X and Y exponents for the hypercomplex:pwr formula.",
    integer "maxIter" |>.described "Iterations used to find the surface. The default is 20.",
    integer "precision" |>.described "Accuracy of the surface search. The default is 20.",
    vector .xyzw "slice" |>.described "3D slice through 4D space. Defaults to <0, 0, 0, 1>.",
    number "distance" |>.described "Distance of the slice from the origin. Defaults to 0."]

def parametric : ClassTable where
  location := ⟨"povgen_schema::tables::objects", "PARAMETRIC"⟩
  name := "Parametric"
  superclass := "Primitive"
  immutables := finiteSolid
  attributes := [
    checked "funcX" "SDL" .function "funcX must be an SDL function." |>.needed
      |>.described "Determines the X coordinate of the surface.",
    checked "funcY" "SDL" .function "funcY must be an SDL function." |>.needed
      |>.described "Determines the Y coordinate of the surface.",
    checked "funcZ" "SDL" .function "funcZ must be an SDL function." |>.needed
      |>.described "Determines the Z coordinate of the surface.",
    vector .uv "uv1" |>.needed
      |>.described "One corner of the UV plane the surface is mapped to.",
    vector .uv "uv2" |>.needed |>.described "The other corner of the UV plane.",
    checked "containedBy" "Sphere|Box" container "containedBy must be a Sphere or Box."
      |>.described "Sphere or Box bounding the rendered portion of the surface.",
    number "maxGradient" |>.described "Maximum gradient of the surface functions.",
    number "accuracy" |>.described "Subdivision accuracy; lower is more accurate.",
    checked "precomputeDepth" "integer" (.intWithin 0 20)
        "precomputeDepth must be an integer in the range (0 - 20)."
      |>.described "Precalculation depth, trading memory for speed.",
    flag "precomputeX" |>.described "Precalculate the X coordinate during subdivision.",
    flag "precomputeY" |>.described "Precalculate the Y coordinate during subdivision.",
    flag "precomputeZ" |>.described "Precalculate the Z coordinate during subdivision."]

def poly : ClassTable where
  location := ⟨"povgen_schema::tables::objects", "POLY"⟩
  name := "Poly"
  superclass := "Primitive"
  immutables := infiniteSolid
  attributes := [
    checked "order" "integer" (.intWithin 2 35) "order must be an integer in the range (2 - 35)."
      |>.needed
      |>.described "Order of the polynomial.",
    checked "coefficients" "[float]" (.list 1 none .number)
        "coefficients must be an array of floats."
      |>.needed
      |>.described
        ("Coefficients of the polynomial; ((order + 1) * (order + 2) * (order + 3)) / 6 are " ++
         "required."),
    sturm]

def polynomial : ClassTable where
  location := ⟨"povgen_schema::tables::objects", "POLYNOMIAL"⟩
  name := "Polynomial"
  superclass := "Primitive"
  immutables := infiniteSolid
  attributes := [
    checked "order" "integer" (.intWithin 2 35) "order must be an integer in the range (2 - 35)."
      |>.needed
      |>.described "Order of the polynomial.",
    coerced "coefficients" "[VectorXYZW]" (.vectors .xyzw 1 none)
        "coefficients must be an array of VectorXYZW."
      |>.needed
      |>.described "Terms as <x power, y power, z power, coefficient>.",
    sturm]

def quadric : ClassTable where
  location := ⟨"povgen_schema::tables::objects", "QUADRIC"⟩
  name := "Quadric"
  superclass := "Primitive"
  immutables := infiniteSolid
  attributes := [
    checked "coefficients" "[float]" (.list 10 (some 10) .number)
        "coefficients must be an array of 10 floats."
      |>.needed
      |>.described "The 10 coefficients of a second-order polynomial."]

def quartic : ClassTable where
  location := ⟨"povgen_schema::tables::objects", "QUARTIC"⟩
  name := "Quartic"
  superclass := "Primitive"
  immutables := infiniteSolid
  attributes := [
    checked "coefficients" "[float]" (.list 35 (some 35) .number)
        "coefficients must be an array of 35 floats."
      |>.needed
      |>.described "The 35 coefficients of a fourth-order polynomial.",
    sturm]

end SceneCatalog.Catalog
