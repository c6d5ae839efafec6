import SceneCatalog.Object.Fields

/-
This file turns objects of the coordinate and colour classes into plain tuples.
-/

namespace SceneCatalog.Object

/-- The components in order. Components beyond the least number may be unset, and end the list. -/
def componentsFrom (object : Object) (kind : VectorKind) (count : Nat) :
    List String → Except SceneError (List Float)
  | [] => .ok []
  | name :: rest =>
    match object.value? name with
    | some value =>
      match value.asFloat? with
      | some number => (object.componentsFrom kind (count + 1) rest).map (number :: ·)
      | none => .error (.serialize object.className (name ++ " is not a number"))
    | none =>
      if kind.leastArity ≤ count then .ok []
      else .error (.missingRequired object.className name)

def toCoordinates (object : Object) (kind : VectorKind) : Except SceneError Coordinates := do
  let components ← object.componentsFrom kind 0 kind.componentNames
  match Coordinates.ofNumbers? kind components with
  | some coordinates => return coordinates
  | none => .error (.serialize object.className ("not a valid " ++ kind.className))

/-- The tuple of an object, if its class is one of coordinates or colours. -/
def toCoordinates? (object : Object) : Option (Except SceneError Coordinates) :=
  (VectorKind.ofClassName? object.className).map object.toCoordinates

end SceneCatalog.Object
