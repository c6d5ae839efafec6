import SceneCatalog.SceneError
import SceneCatalog.Value.Views

/-
This file reads and replaces the slots of an object.
-/

namespace SceneCatalog

namespace Level

def constant? (level : Level) (name : String) : Option Constant :=
  (level.constants.find? (·.name == name)).map (·.value)

def slot? (level : Level) (name : String) : Option Slot :=
  (level.fields.find? (·.name == name)).map (·.slot)

/-- What a reader of the attribute sees, if the level has it. -/
def read? (level : Level) (name : String) : Option (Option Value) :=
  match level.constant? name with
  | some constant => some constant.toValue?
  | none => (level.slot? name).map Slot.read

def declares (level : Level) (name : String) : Bool := (level.read? name).isSome

def put (level : Level) (name : String) (slot : Slot) : Level :=
  { level with
    fields := level.fields.map fun field =>
      if field.name == name then { field with slot } else field }

end Level

namespace Object

/-- Only the nearest level that has the attribute changes. -/
def putInFirst (name : String) (slot : Slot) : List Level → List Level
  | [] => []
  | level :: rest =>
    if level.declares name then level.put name slot :: rest else level :: putInFirst name slot rest

def put (object : Object) (name : String) (slot : Slot) : Object :=
  if object.own.declares name then { object with own := object.own.put name slot }
  else { object with ancestors := putInFirst name slot object.ancestors }

/-- A name that no level has is unknown to the class without ancestors. -/
def get (object : Object) (name : String) : Except SceneError (Option Value) :=
  match object.levels.findSome? (·.read? name) with
  | some value => .ok value
  | none => .error (.unknownAttribute object.rootName name)

/-- Constants come before fields, and the object's own attributes before those of ancestors. -/
def attributeNames (object : Object) : List String :=
  object.levels.flatMap fun level =>
    level.constants.map (·.name) ++ level.fields.map fun field => field.name

/-- The value of an attribute that is known and set. -/
def value? (object : Object) (name : String) : Option Value :=
  match object.get name with
  | .ok value => value
  | .error _ => none

/-- All attributes and what a reader of them sees. -/
def attributes (object : Object) : List (String × Option Value) :=
  object.attributeNames.map fun name => (name, object.value? name)

def flag? (object : Object) (name : String) : Option Bool := (object.value? name).bind Value.asBool?

def required (object : Object) (name : String) : Except SceneError Value :=
  match object.value? name with
  | some value => .ok value
  | none => .error (.missingRequired object.className name)

/-- Objects take part in a scene unless they say otherwise. -/
def isActive (object : Object) : Bool := object.flag? "active" != some false

end Object

end SceneCatalog
