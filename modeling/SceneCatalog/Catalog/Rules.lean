import SceneCatalog.Schema.ClassTable
import SceneCatalog.Schema.Vocabulary

/-
This file holds the shapes of attributes that the class tables share.
-/

namespace SceneCatalog

namespace Attribute

def needed (rule : Attribute) : Attribute := { rule with required := true }

def startingAt (rule : Attribute) (initial : Constant) : Attribute :=
  { rule with initial := some initial }

def described (rule : Attribute) (description : String) : Attribute :=
  { rule with description := some description }

end Attribute

namespace Catalog.Rules

def coerced (name typeName : String) (validator : Validator) (complaint : String) : Attribute :=
  { name, typeName, complaint, validator := some validator }

def checked (name typeName : String) (condition : Check) (complaint : String) : Attribute :=
  coerced name typeName (.check condition) complaint

def number (name : String) : Attribute :=
  checked name "float" .number (name ++ " must be a float.")

def integer (name : String) : Attribute :=
  checked name "integer" .int (name ++ " must be an integer.")

def flag (name : String) : Attribute :=
  checked name "boolean" .bool (name ++ " must be a boolean.")

def words (name : String) : Attribute :=
  checked name "string" .nonEmptyString (name ++ " must be a non-empty string.")

def sceneText (name : String) : Attribute :=
  checked name "SDL" .text (name ++ " must be a string of SDL.")

def vector (kind : VectorKind) (name : String) : Attribute :=
  coerced name kind.className (.vector kind) (name ++ " must be a " ++ kind.className ++ ".")

def point (name : String) : Attribute := vector .xyz name

def color (name : String) : Attribute := vector .color name

def sturm : Attribute :=
  flag "sturm" |>.described
    ("If true, POV-Ray will use the slower but more accurate Sturmian root solver. Use this if " ++
     "the surface exhibits holes or other imperfections.")

def hierarchy : Attribute :=
  flag "hierarchy" |>.described "If false, turn off the internal bounding hierarchy."

def flags (finite solid csgOperand : Bool) : List Immutable :=
  [⟨"finite", .bool finite⟩, ⟨"solid", .bool solid⟩, ⟨"csg", .bool false⟩,
   ⟨"csgOperand", .bool csgOperand⟩]

def finiteSolid : List Immutable := flags true true false

def finiteSurface : List Immutable := flags true false false

def infiniteSolid : List Immutable := flags false true false

def light : List Immutable := flags true false true

/-- Whether a combination of objects is finite depends on them. -/
def constructive : List Immutable :=
  [⟨"finite", .null⟩, ⟨"solid", .bool true⟩, ⟨"csg", .bool true⟩]

/-- One positive angle or two of them. -/
def positiveAngle : Check := .either (.moreThan 0) (.list 2 (some 2) (.moreThan 0))

def blurSamples : Check := .list 1 (some 2) (.atLeast 0)

def confidence : Check := .both (.atLeast 0) (.lessThan 1)

def maxTrace : Check := .either .int (.oneOf ["allIntersections"])

def gamma : Check := .either .number (.oneOf ["sRGB"])

def container : Check := .ofClass ["Sphere", "Box"]

def radiosityCount : Check := .list 1 (some 2) (.intWithin 1 Int64.maxValue)

/-- A number and an integer. -/
def expandThresholds : Check := .satisfies fun value =>
  match value.asList? with
  | some [percentage, photons] => Check.number.accepts percentage && Check.int.accepts photons
  | _ => false

/-- Two ascending integers, none of them negative. -/
def gather : Check := .satisfies fun value =>
  match value.asList? with
  | some [.int low, .int high] => 0 ≤ low && low ≤ high
  | _ => false

/-- Red and green lie in the unit interval and blue is zero. A colour outside of it is handed back
as a colour. -/
def bokeh (value : Value) : Except Value Value :=
  match toVector .color value with
  | .error refused => .error refused
  | .ok color =>
    let inUnit (name : String) : Bool :=
      (color.asVector?.bind (·.get? name)).any fun channel => 0 ≤ channel && channel ≤ 1
    let isZero (name : String) : Bool :=
      (color.asVector?.bind (·.get? name)).any fun channel => channel == 0
    if inUnit "r" && inUnit "g" && isZero "b" then .ok color else .error color

end Catalog.Rules

end SceneCatalog
