import SceneCatalog.Scene.Modifiers

/-
This file lays out the surfaces that enclose no volume.
-/

namespace SceneCatalog.Layout

def bicubicPatch : Layout := material "bicubic_patch" [
  .line [.words "type ", .value "type"], .setting "flatness" "flatness",
  .setting "uSteps" "u_steps", .setting "vSteps" "v_steps", .points "points" 4 false]

def disc : Layout := material "disc" [
  .line (values ["center", "normal", "radius"] ++ [.optional ", " "holeRadius"])]

def mesh : Layout := material "mesh" [
  .parts "triangles", .setting "insideVector" "inside_vector", hierarchy]

def polygon : Layout := material "polygon" [.points "points" 4 true]

/-- The normals of a triangle that is smooth and has all of them. -/
def smoothNormals? (object : Object) : Option (List Value) :=
  if object.flag? "smooth" == some true then
    ["normal1", "normal2", "normal3"].mapM object.value?
  else none

/-- Each corner of a smooth triangle is followed by its normal. -/
def triangleCorners (writer : NodeWriter) (object : Object) :
    Except SceneError (List String) := do
  let corners ← ["corner1", "corner2", "corner3"].mapM (requiredText writer object)
  match smoothNormals? object with
  | none => return [", ".intercalate corners]
  | some normals =>
    let normals ← normals.mapM (·.verbatim writer)
    return [", ".intercalate
      (corners.zipWith (fun corner normal => [corner, normal]) normals).flatten]

def triangle : Layout where
  keyword object := if (smoothNormals? object).isSome then "smooth_triangle" else "triangle"
  sections := [.always [.lines triangleCorners], .always modifiers]

end SceneCatalog.Layout
