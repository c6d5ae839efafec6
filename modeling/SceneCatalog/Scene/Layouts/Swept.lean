import SceneCatalog.Scene.Modifiers
import SceneCatalog.Schema.Vocabulary

/-
This file lays out the solids that a moving curve or sphere sweeps out.
-/

namespace SceneCatalog.Layout

def lathe : Layout := material "lathe" ([
  .line [.keyed Vocabulary.splineTypes "type"], .points "points" 4 true] ++ solver)

def prism : Layout := material "prism" ([
  .line [.keyed Vocabulary.prismTypes "type"],
  .line (values ["height1", "height2"] ++ [.words ","]),
  .points "points" 4 true, .flag "open" "open"] ++ solver)

def sor : Layout := material "sor" ([.points "points" 4 true, .flag "open" "open"] ++ solver)

/-- The centre and the radius of a sphere in a sweep. -/
def sweptSphere (writer : NodeWriter) (item : Value) : Except SceneError String := do
  match item.asObject?.filter (·.className == "Sphere") with
  | some sphere =>
    let center ← requiredText writer sphere "center"
    return center ++ ", " ++ (← requiredText writer sphere "radius")
  | none => .error (.serialize "SphereSweep" "spheres must hold Spheres")

/-- The number of spheres and one sphere a line. -/
def sweptSpheres (writer : NodeWriter) (object : Object) : Except SceneError (List String) := do
  let spheres ← object.required "spheres"
  match spheres.asList? with
  | some items =>
    return (toString items.length ++ ",") :: separated (← items.mapM (sweptSphere writer))
  | none => return [← spheres.verbatim writer]

def sphereSweep : Layout := material "sphere_sweep" [
  .line [.keyed Vocabulary.sweepTypes "type"], .lines sweptSpheres,
  .setting "tolerance" "tolerance"]

end SceneCatalog.Layout
