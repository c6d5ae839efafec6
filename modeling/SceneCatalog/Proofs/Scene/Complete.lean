import SceneCatalog.Proofs.Scene.Graph

/-
This file says which objects have all that their blocks need.
-/

namespace SceneCatalog.Object

/-- What an area light cannot do without. -/
def areaNames : List String := ["axis1", "axis2", "size1", "size2"]

/-- The attributes of a class whose objects stand in its blocks. Cameras and lights are neither
clipped nor bounded. -/
def renderedNames (className : String) : List String :=
  (match className with
    | "Blob" | "Intersection" | "Merge" | "Union" => ["components"]
    | "Difference" => ["positiveComponent", "negativeComponents"]
    | "IsoSurface" | "Parametric" => ["containedBy"]
    | "LightSource" => ["looksLike", "projectedThrough"]
    | "Mesh" => ["triangles"]
    | _ => []) ++
  match className with
  | "Camera" | "LightSource" => []
  | _ => ["clippedBy", "boundedBy"]

/-- The centre and the radius of each sphere in the list of a sweep are set. -/
def Swept (object : Object) : Prop :=
  object.className = "SphereSweep" → ∀ items, object.value? "spheres" = some (.list items) →
    ∀ sphere, (Value.list items).Holds sphere →
      (sphere.value? "center").isSome ∧ (sphere.value? "radius").isSome

/-- What the class requires is set, what area lights and sweeps need besides is set too, and all
objects that are written within are complete. -/
inductive Complete : Object → Prop where
  | intro {object : Object}
      (required : ∀ table, catalog.find? object.className = some table →
        ∀ rule ∈ table.required, (object.value? rule.name).isSome)
      (area : object.className = "LightSource" → object.value? "areaLight" = some (.bool true) →
        ∀ name ∈ areaNames, (object.value? name).isSome)
      (swept : object.Swept)
      (parts : ∀ name ∈ renderedNames object.className, ∀ value, object.value? name = some value →
        ∀ child, value.Holds child → Complete child) : Complete object

end SceneCatalog.Object
