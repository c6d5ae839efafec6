import SceneCatalog.Catalog
import SceneCatalog.Object.Class
import SceneCatalog.Scene.Layouts.Constructive
import SceneCatalog.Scene.Layouts.GlobalSettings
import SceneCatalog.Scene.Layouts.Implicit
import SceneCatalog.Scene.Layouts.Solids
import SceneCatalog.Scene.Layouts.Surfaces
import SceneCatalog.Scene.Layouts.Swept
import SceneCatalog.Scene.Layouts.Viewing

/-
This file writes objects as scene text.
-/

namespace SceneCatalog

/-- The classes whose objects can stand in a scene. -/
def Layout.ofObjects : List (String × Layout) := [
  ("BicubicPatch", Layout.bicubicPatch), ("Blob", Layout.blob), ("Box", Layout.box),
  ("Camera", Layout.camera), ("Cone", Layout.cone), ("Cubic", Layout.cubic),
  ("Cylinder", Layout.cylinder), ("Difference", Layout.difference), ("Disc", Layout.disc),
  ("HeightField", Layout.heightField), ("Intersection", Layout.intersection),
  ("IsoSurface", Layout.isoSurface), ("JuliaFractal", Layout.juliaFractal),
  ("Lathe", Layout.lathe), ("LightSource", Layout.lightSource), ("Merge", Layout.merge),
  ("Mesh", Layout.mesh), ("Ovus", Layout.ovus), ("Parametric", Layout.parametric),
  ("Plane", Layout.plane), ("Poly", Layout.poly), ("Polygon", Layout.polygon),
  ("Polynomial", Layout.polynomial), ("Prism", Layout.prism), ("Quadric", Layout.quadric),
  ("Quartic", Layout.quartic), ("Sphere", Layout.sphere), ("SphereSweep", Layout.sphereSweep),
  ("Superellipsoid", Layout.superellipsoid), ("Sor", Layout.sor), ("Text", Layout.text),
  ("Torus", Layout.torus), ("Triangle", Layout.triangle), ("Union", Layout.union)]

def Layout.ofClass? (className : String) : Option Layout :=
  (Layout.ofObjects.find? (·.1 == className)).map (·.2)

namespace Object

/-- Objects of these classes can be nested in others and added to scenes. -/
def isNode (object : Object) : Bool := (Layout.ofClass? object.className).isSome

/-- The attributes that the class requires come before all else. -/
def requireOwn (object : Object) : Except SceneError Unit :=
  match catalog.find? object.className with
  | some table => table.require object
  | none => .ok ()

def writeAs (layout : Layout) (writer : NodeWriter) (object : Object) :
    Except SceneError Markup := do
  object.requireOwn
  layout.write writer object

/-- The block of an object, with objects nested in it down to a depth. -/
def markupWithin : Nat → Object → Except SceneError Markup
  | 0, object => .error (.serialize object.className "nested too deeply")
  | depth + 1, object =>
    match Layout.ofClass? object.className with
    | some layout => object.writeAs layout (markupWithin depth)
    | none => .error (.serialize object.className "not an object of a scene")

/-- No object nested in this one is deeper than its depth. -/
def markup (object : Object) : Except SceneError Markup := object.markupWithin (object.depth + 1)

def sceneText (object : Object) (stops : Nat) : Except SceneError String :=
  object.markup.map (·.write stops)

/-- The block of global settings, which is no object of a scene. -/
def settingsText (object : Object) (stops : Nat) : Except SceneError String :=
  (object.writeAs Layout.globalSettings markup).map (·.write stops)

end Object

namespace Value

def sceneText (value : Value) (stops : Nat) : Except SceneError String :=
  value.inline Object.markup stops

def verbatimText (value : Value) : Except SceneError String := value.verbatim Object.markup

end Value

end SceneCatalog
