import SceneCatalog.Catalog.Rules

/-
This file describes the solids that a moving curve or sphere sweeps out.
-/

namespace SceneCatalog.Catalog

open Rules

def lathe : ClassTable where
  location := ⟨"povgen_schema::tables::objects", "LATHE"⟩
  name := "Lathe"
  superclass := "Primitive"
  immutables := finiteSolid
  attributes := [
    checked "type" "string" (.key Vocabulary.splineTypes)
        "type must be one of bezierSpline, cubicSpline, linearSpline, or quadraticSpline."
      |>.needed
      |>.described "Spline type used to define the profile.",
    coerced "points" "[VectorXY]" (.vectors .xy 2 none)
        "points must be an array of two or more VectorXY."
      |>.needed
      |>.described "Points defining the spline.",
    sturm]

def prism : ClassTable where
  location := ⟨"povgen_schema::tables::objects", "PRISM"⟩
  name := "Prism"
  superclass := "Primitive"
  immutables := finiteSolid
  attributes := [
    checked "type" "string" (.key Vocabulary.prismTypes)
        ("type must be one of bezierSpline, conicSweep, cubicSpline, linearSpline, linearSweep, " ++
         "or quadraticSpline.")
      |>.needed
      |>.described "Spline or sweep type used for the prism.",
    number "height1" |>.needed |>.described "Y coordinate of the top of the prism.",
    number "height2" |>.needed |>.described "Y coordinate of the bottom of the prism.",
    coerced "points" "[VectorXY]" (.vectors .xy 0 none) "points must be an array of VectorXY."
      |>.needed
      |>.described "Spline points swept along the Y axis.",
    flag "open" |>.described "If true, the top and bottom of the prism are left open.",
    sturm]

def sor : ClassTable where
  location := ⟨"povgen_schema::tables::objects", "SOR"⟩
  name := "Sor"
  superclass := "Primitive"
  description := "Surface of revolution."
  immutables := finiteSolid
  attributes := [
    coerced "points" "[VectorXY]" (.vectors .xy 2 none)
        "points must be an array of two or more VectorXY."
      |>.needed
      |>.described "Points of the open curve rotated about the Y axis.",
    flag "open" |>.described "If true, the base and the cap are left open.",
    sturm]

def sphereSweep : ClassTable where
  location := ⟨"povgen_schema::tables::objects", "SPHERE_SWEEP"⟩
  name := "SphereSweep"
  superclass := "Primitive"
  immutables := finiteSolid
  attributes := [
    checked "type" "string" (.key Vocabulary.sweepTypes)
        "type must be one of bSpline, cubicSpline, or linearSpline."
      |>.needed
      |>.described "Spline type used for the sweep.",
    checked "spheres" "[Sphere]" (.list 2 none (.ofClass ["Sphere"]))
        "spheres must be an array of two or more Spheres."
      |>.needed
      |>.described "Spheres whose positions and radii are interpolated.",
    number "tolerance"
      |>.described "Depth tolerance for intersection calculations. Defaults to 0.000001."]

end SceneCatalog.Catalog
