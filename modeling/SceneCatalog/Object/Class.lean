import SceneCatalog.Object.Fields
import SceneCatalog.Schema.Lineage
import SceneCatalog.SortedMap

/-
This file makes objects of a class and assigns their attributes.
-/

namespace SceneCatalog

/-- The slots to assign, in the order of their names. -/
abbrev Options := SortedMap Slot

/-- The table of a class and those of its ancestors, nearest first. -/
structure Class where
  own : ClassTable
  ancestors : List ClassTable

/-- What a class says about one of its attributes. -/
inductive Declaration where
  | immutable
  | mutable (rule : Attribute)

def ClassTable.declaration? (table : ClassTable) (name : String) : Option Declaration :=
  if (table.immutable? name).isSome then some .immutable
  else (table.attribute? name).map .mutable

/-- The attributes of a new object have the initial slots of the table. -/
def ClassTable.blank (table : ClassTable) : Level where
  className := table.name
  constants := table.immutables
  fields := table.attributes.map fun rule => ⟨rule.name, rule.initialSlot⟩

def Catalog.class? (catalog : Catalog) (name : String) : Option Class :=
  match catalog.lineage name with
  | [] => none
  | own :: ancestors => some ⟨own, ancestors⟩

namespace Class

def name (cls : Class) : String := cls.own.name

def tables (cls : Class) : List ClassTable := cls.own :: cls.ancestors

def rootName (cls : Class) : String := (cls.ancestors.getLast?.getD cls.own).name

def blank (cls : Class) : Object := ⟨cls.own.blank, cls.ancestors.map ClassTable.blank⟩

/-- The nearest table that declares the attribute, and its declaration. -/
def declaration? (cls : Class) (name : String) : Option (ClassTable × Declaration) :=
  cls.tables.findSome? fun table => (table.declaration? name).map fun found => (table, found)

/-- The slot that an assignment stores. -/
def accept (cls : Class) (name : String) (slot : Slot) : Except SceneError Slot :=
  match cls.declaration? name with
  | none => .error (.unknownAttribute cls.rootName name)
  | some (table, .immutable) => .error (.readOnly table.name name)
  | some (table, .mutable rule) => rule.accept table.name slot

def assign (cls : Class) (object : Object) (name : String) (slot : Slot) :
    Except SceneError Object :=
  (cls.accept name slot).map (object.put name)

def assignAll (cls : Class) (object : Object) :
    List (String × Slot) → Except SceneError Object
  | [] => .ok object
  | (name, slot) :: rest =>
    match cls.assign object name slot with
    | .ok next => cls.assignAll next rest
    | .error error => .error error

/-- Either all options are assigned or none is. -/
def apply (cls : Class) (object : Object) (options : Options) : Except SceneError Object :=
  cls.assignAll object options.entries

/-- A new object takes its options as if they were assigned one by one. -/
def new (cls : Class) (options : Options) : Except SceneError Object :=
  cls.assignAll cls.blank options.entries

/-- Tuples take their required components by place. -/
def newFromNumbers (cls : Class) (numbers : List Float) : Except SceneError Object :=
  cls.assignAll cls.blank
    ((cls.own.required.map (·.name)).zip (numbers.map fun number => .literal (.float number)))

end Class

/-- The first attribute that the table requires and the object has no value for. -/
def ClassTable.missingRequired? (table : ClassTable) (object : Object) : Option String :=
  (table.required.find? fun rule => (object.value? rule.name).isNone).map (·.name)

def ClassTable.require (table : ClassTable) (object : Object) : Except SceneError Unit :=
  match table.missingRequired? object with
  | some name => .error (.missingRequired table.name name)
  | none => .ok ()

end SceneCatalog
