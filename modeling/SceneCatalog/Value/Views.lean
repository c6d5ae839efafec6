import SceneCatalog.Value.Basic

/-
This file looks at values as flags, numbers, text, lists or objects, and compares them.
-/

namespace SceneCatalog.Value

def asBool? : Value → Option Bool
  | bool flag => some flag
  | _ => none

/-- Integers count as numbers. -/
def asFloat? : Value → Option Float
  | float number => some number
  | int number => some (Float.ofInt number.toInt)
  | _ => none

def asInt? : Value → Option Int64
  | int number => some number
  | _ => none

/-- Both strings and code are text. -/
def asText? : Value → Option String
  | text content => some content
  | code content => some content
  | _ => none

def asList? : Value → Option (List Value)
  | list items => some items
  | _ => none

def asVector? : Value → Option Coordinates
  | vector coordinates => some coordinates
  | _ => none

def asObject? : Value → Option Object
  | node _ object => some object
  | _ => none

def isNode : Value → Bool
  | node _ _ => true
  | _ => false

/-- The numbers of a list that holds nothing else. -/
def floats? (value : Value) : Option (List Float) := value.asList?.bind (·.mapM asFloat?)

def typeLabel : Value → String
  | bool _ => "bool"
  | float _ => "float"
  | int _ => "int"
  | list _ => "list"
  | node _ object => object.className
  | code _ => "sdl"
  | text _ => "string"
  | vector coordinates => coordinates.kind.className

mutual

/-- Numbers compare as numbers, nodes by identity and all else by content. -/
def same : Value → Value → Bool
  | bool first, bool second => first == second
  | float first, float second => first == second
  | int first, int second => first == second
  | list first, list second => sameItems first second
  | node first _, node second _ => first == second
  | code first, code second => first == second
  | text first, text second => first == second
  | vector first, vector second => first.same second
  | _, _ => false

def sameItems : List Value → List Value → Bool
  | [], [] => true
  | first :: firsts, second :: seconds => same first second && sameItems firsts seconds
  | _, _ => false

end

end SceneCatalog.Value
