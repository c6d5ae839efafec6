import SceneCatalog.SceneError
import SceneCatalog.Schema.Validator

/-
This file describes classes by tables of their attributes.
-/

namespace SceneCatalog

/-- A mutable attribute; `complaint` is said when its validator refuses a value. -/
structure Attribute where
  name : String
  typeName : String
  required : Bool := false
  validator : Option Validator := none
  complaint : String := ""
  initial : Option Constant := none
  description : Option String := none

namespace Attribute

/-- Literals have to pass the validator and are stored in the form that it gives them. Other slots
are stored as they are. -/
def accept (rule : Attribute) (className : String) (slot : Slot) : Except SceneError Slot :=
  match slot, rule.validator with
  | .literal value, some validator =>
    match validator.apply value with
    | .ok stored => .ok (.literal stored)
    | .error _ => .error (.invalid className rule.name rule.complaint)
  | slot, _ => .ok slot

/-- The slot of a new object. -/
def initialSlot (rule : Attribute) : Slot :=
  match rule.initial.bind Constant.toValue? with
  | some value => .literal value
  | none => .unset

end Attribute

/-- Where generated code finds the table. -/
structure Location where
  module : String
  ident : String
  deriving Repr, DecidableEq

def Location.path (location : Location) : String :=
  "::" ++ location.module ++ "::" ++ location.ident

/-- A class may replace the options of its constructor by parameters and a body of its own. -/
structure ClassTable where
  location : Location
  name : String
  superclass : Option String := none
  description : Option String := none
  immutables : List Immutable := []
  attributes : List Attribute := []
  parameters : Option String := none
  body : Option String := none

namespace ClassTable

def descriptionOrName (table : ClassTable) : String :=
  table.description.getD (table.name ++ " class")

def attribute? (table : ClassTable) (name : String) : Option Attribute :=
  table.attributes.find? (·.name == name)

def attributeIndex? (table : ClassTable) (name : String) : Option Nat :=
  table.attributes.findIdx? (·.name == name)

def immutable? (table : ClassTable) (name : String) : Option Immutable :=
  table.immutables.find? (·.name == name)

def required (table : ClassTable) : List Attribute := table.attributes.filter (·.required)

/-- The names of the immutable attributes and of the mutable ones after them. -/
def attributeNames (table : ClassTable) : List String :=
  table.immutables.map (·.name) ++ table.attributes.map (·.name)

theorem immutable_mem_names {table : ClassTable} {immutable : Immutable}
    (member : immutable ∈ table.immutables) : immutable.name ∈ table.attributeNames :=
  List.mem_append_left _ (List.mem_map_of_mem member)

theorem attribute_mem_names {table : ClassTable} {rule : Attribute}
    (member : rule ∈ table.attributes) : rule.name ∈ table.attributeNames :=
  List.mem_append_right _ (List.mem_map_of_mem member)

def takesOptions (table : ClassTable) : Bool := table.parameters.isNone && table.body.isNone

end ClassTable

end SceneCatalog
