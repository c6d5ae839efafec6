import SceneCatalog.Value.Coordinates

/-
This file holds the values of attributes and the objects that they belong to.
-/

namespace SceneCatalog

/-- A fixed value written down in a class table. -/
inductive Constant where
  | null
  | bool (flag : Bool)
  | int (number : Int64)
  | float (number : Float)
  | text (content : String)

/-- An attribute that no assignment changes. -/
structure Immutable where
  name : String
  value : Constant

mutual

/-- `code` is scene text that is written as it stands. Two nodes are equal when they have the same
identity. -/
inductive Value where
  | bool (flag : Bool)
  | float (number : Float)
  | int (number : Int64)
  | list (items : List Value)
  | node (identity : Nat) (object : Object)
  | code (text : String)
  | text (content : String)
  | vector (coordinates : Coordinates)

/-- What a mutable attribute stores. A deferred value is computed when it is read. -/
inductive Slot where
  | unset
  | literal (value : Value)
  | deferred (value : Value)
  | raw (code : String)

structure Field where
  name : String
  slot : Slot

/-- The attributes that one class contributes to an object. -/
structure Level where
  className : String
  constants : List Immutable
  fields : List Field

/-- The level of the object's own class and those of its ancestors, nearest first. -/
structure Object where
  own : Level
  ancestors : List Level

end

def Constant.toValue? : Constant → Option Value
  | .null => none
  | .bool flag => some (.bool flag)
  | .int number => some (.int number)
  | .float number => some (.float number)
  | .text content => some (.text content)

/-- Only floats can fail to be finite. -/
def Constant.isFinite : Constant → Bool
  | .float number => number.isFinite
  | _ => true

namespace Slot

def isUnset : Slot → Bool
  | unset => true
  | _ => false

/-- Text that starts with an ampersand is raw code without it. -/
def ofText (text : String) : Slot :=
  match text.toList with
  | '&' :: code => raw (String.ofList code)
  | _ => literal (.text text)

/-- The value that a reader of the attribute sees. -/
def read : Slot → Option Value
  | unset => none
  | literal value => some value
  | deferred value => some value
  | raw code => some (.code code)

end Slot

namespace Object

def levels (object : Object) : List Level := object.own :: object.ancestors

def className (object : Object) : String := object.own.className

/-- The class without ancestors that the object descends from. -/
def rootName (object : Object) : String :=
  (object.ancestors.getLast?.getD object.own).className

/-- The class is that of the object or one of its ancestors. -/
def isA (object : Object) (className : String) : Bool :=
  object.levels.any (·.className == className)

end Object

mutual

/-- The number of objects nested in each other. -/
def Value.depth : Value → Nat
  | .list items => Value.depthOfItems items
  | .node _ object => object.depth + 1
  | _ => 0

def Value.depthOfItems : List Value → Nat
  | [] => 0
  | item :: items => max item.depth (Value.depthOfItems items)

def Slot.depth : Slot → Nat
  | .literal value => value.depth
  | .deferred value => value.depth
  | _ => 0

def Level.depthOfFields : List Field → Nat
  | [] => 0
  | ⟨_, slot⟩ :: fields => max slot.depth (Level.depthOfFields fields)

def Object.depthOfLevels : List Level → Nat
  | [] => 0
  | ⟨_, _, fields⟩ :: levels => max (Level.depthOfFields fields) (Object.depthOfLevels levels)

def Object.depth : Object → Nat
  | ⟨⟨_, _, fields⟩, ancestors⟩ => max (Level.depthOfFields fields) (Object.depthOfLevels ancestors)

end

end SceneCatalog
