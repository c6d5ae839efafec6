import SceneCatalog.Schema.ClassTable
import SceneCatalog.Text.Json

/-
This file writes class tables as JSON.
-/

namespace SceneCatalog

open Text (Json)

def Constant.json : Constant → Json
  | .null => .null
  | .bool flag => .bool flag
  | .int number => .int number.toInt
  | .float number => .float number
  | .text content => .text content

/-- A member that is left out if there is nothing to write. -/
def optionalMember (name : String) (content : Option String) : List (String × Json) :=
  content.toList.map fun text => (name, .text text)

def Attribute.json (rule : Attribute) : Json :=
  .object (
    [("name", .text rule.name), ("required", .bool rule.required),
      ("validated", .bool rule.validator.isSome)] ++
    optionalMember "error" (if rule.complaint.isEmpty then none else some rule.complaint) ++
    rule.initial.toList.map (fun constant => ("default", constant.json)) ++
    [("type_name", .text rule.typeName)] ++
    optionalMember "description" rule.description)

def Immutable.json (immutable : Immutable) : Json :=
  .object [("name", .text immutable.name), ("value", immutable.value.json)]

def Location.json (location : Location) : Json :=
  .object [("module_path", .text location.module), ("ident", .text location.ident)]

def ClassTable.json (table : ClassTable) : Json :=
  .object (
    [("def", table.location.json), ("name", .text table.name)] ++
    optionalMember "superclass" table.superclass ++
    optionalMember "description" table.description ++
    (if table.immutables.isEmpty then []
      else [("immutable", .array (table.immutables.map Immutable.json))]) ++
    [("mutable", .array (table.attributes.map Attribute.json))] ++
    optionalMember "constructor_args" table.parameters ++
    optionalMember "constructor_body" table.body)

end SceneCatalog
