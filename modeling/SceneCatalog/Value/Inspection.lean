import SceneCatalog.Number.Format
import SceneCatalog.Schema.Naming
import SceneCatalog.Text.Quoted
import SceneCatalog.Value.Basic

/-
This file writes stored values for developers.
-/

namespace SceneCatalog

def VectorKind.inspect : VectorKind → String
  | xy => "Xy"
  | uv => "Uv"
  | xyz => "Xyz"
  | xyzw => "Xyzw"
  | color => "Color"

/-- A constructor and its argument. -/
def applied (constructor argument : String) : String := constructor ++ "(" ++ argument ++ ")"

def bracketed (items : List String) : String := "[" ++ ", ".intercalate items ++ "]"

/-- A structure and its members. -/
def braced (name : String) (members : List (String × String)) : String :=
  if members.isEmpty then name
  else
    name ++ " \x7b " ++ ", ".intercalate (members.map fun member => member.1 ++ ": " ++ member.2) ++
      " \x7d"

def Coordinates.inspect (coordinates : Coordinates) : String :=
  braced "Vector" [("kind", coordinates.kind.inspect),
    ("components", bracketed (coordinates.components.map Number.pointed.write))]

def flagText (flag : Bool) : String := if flag then "true" else "false"

def Constant.inspect : Constant → String
  | .null => "None"
  | .bool flag => applied "Some" (applied "Bool" (flagText flag))
  | .int number => applied "Some" (applied "Int" (toString number.toInt))
  | .float number => applied "Some" (applied "Float" (Number.pointed.write number))
  | .text content => applied "Some" (applied "Str" (Text.inspect content))

mutual

def Value.inspect : Value → String
  | .bool flag => applied "Bool" (flagText flag)
  | .float number => applied "Float" (Number.pointed.write number)
  | .int number => applied "Int" (toString number.toInt)
  | .list items => applied "List" (bracketed (Value.inspectItems items))
  | .node _ object => applied "Node" object.inspect
  | .code text => applied "Sdl" (Text.inspect text)
  | .text content => applied "Str" (Text.inspect content)
  | .vector coordinates => applied "Vector" coordinates.inspect

def Value.inspectItems : List Value → List String
  | [] => []
  | item :: items => item.inspect :: Value.inspectItems items

/-- A deferred value is not computed to be shown. -/
def Slot.inspect : Slot → String
  | .unset => "Unset"
  | .literal value => applied "Literal" value.inspect
  | .deferred _ => "Deferred(..)"
  | .raw code => applied "Raw" (Text.inspect code)

def Field.inspectAll : List Field → List (String × String)
  | [] => []
  | ⟨name, slot⟩ :: fields => (Naming.methodName name, slot.inspect) :: Field.inspectAll fields

/-- Each level holds the one of its superclass. -/
def Level.inspectBase : List Level → List (String × String)
  | [] => []
  | ⟨className, constants, fields⟩ :: ancestors =>
    [("base", braced className (Level.inspectBase ancestors ++
      constants.map (fun constant => (Naming.methodName constant.name, constant.value.inspect)) ++
      Field.inspectAll fields))]

def Object.inspect : Object → String
  | ⟨⟨className, constants, fields⟩, ancestors⟩ =>
    braced className (Level.inspectBase ancestors ++
      constants.map (fun constant => (Naming.methodName constant.name, constant.value.inspect)) ++
      Field.inspectAll fields)

end

end SceneCatalog
