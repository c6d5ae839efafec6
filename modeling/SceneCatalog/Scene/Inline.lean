import SceneCatalog.Number.Format
import SceneCatalog.SceneError
import SceneCatalog.Scene.Markup
import SceneCatalog.Schema.Keyword
import SceneCatalog.Text.Quoted
import SceneCatalog.Value.Views

/-
This file writes values as scene text.
-/

namespace SceneCatalog

/-- Zero has no sign. -/
def numberText (number : Float) : String :=
  if number == 0 then "0" else Number.plain.write number

def Coordinates.text (coordinates : Coordinates) : String :=
  let body := "<" ++ ", ".intercalate (coordinates.components.map numberText) ++ ">"
  match coordinates.kind with
  | .color => "rgbft " ++ body
  | _ => body

/-- How the objects within a value are written. -/
abbrev NodeWriter := Object → Except SceneError Markup

namespace Value

mutual

/-- Text of a value whose blocks are indented by so many stops. The items of a list stand on lines
of their own if one of them is an object. -/
def inline (writer : NodeWriter) (stops : Nat) : Value → Except SceneError String
  | bool flag => .ok (if flag then "true" else "false")
  | float number => .ok (numberText number)
  | int number => .ok (toString number.toInt)
  | list items => do
    let parts ← inlineItems writer stops items
    return (if items.any isNode then "\n" else ", ").intercalate parts
  | node _ object => return (← writer object).write stops
  | code content => .ok content
  | text content => .ok (Text.quote content)
  | vector coordinates => .ok coordinates.text

def inlineItems (writer : NodeWriter) (stops : Nat) : List Value → Except SceneError (List String)
  | [] => .ok []
  | item :: rest => do
    let part ← inline writer stops item
    return part :: (← inlineItems writer stops rest)

end

/-- Strings and code as they stand, and all else as its text. -/
def verbatim (writer : NodeWriter) : Value → Except SceneError String
  | text content => .ok content
  | code content => .ok content
  | value => value.inline writer 0

/-- Numbers in angle brackets. -/
def angled (writer : NodeWriter) (value : Value) : Except SceneError String := do
  return "<" ++ (← value.inline writer 0) ++ ">"

/-- The word for a key; other text stays as it is. -/
def keyed (vocabulary : Vocabulary) (writer : NodeWriter) : Value → Except SceneError String
  | text key => .ok ((vocabulary.word? key).getD key)
  | value => value.verbatim writer

end Value

/-- What stands in the braces of a block so far, and the error that stopped it. -/
structure Body where
  entries : List Markup
  failure : Option SceneError

namespace Body

def ofExcept : Except SceneError (List Markup) → Body
  | .ok entries => ⟨entries, none⟩
  | .error error => ⟨[], some error⟩

/-- Nothing is added after a failure. -/
def append (first : Body) (second : Body) : Body :=
  match first.failure with
  | some error => ⟨first.entries, some error⟩
  | none => ⟨first.entries ++ second.entries, second.failure⟩

def toExcept (body : Body) : Except SceneError (List Markup) :=
  match body.failure with
  | some error => .error error
  | none => .ok body.entries

end Body

namespace Value

def lineBody (writer : NodeWriter) (value : Value) : Body :=
  .ofExcept ((value.verbatim writer).map fun line => [.line line])

mutual

/-- Objects stand in blocks of their own, one below the other, and all else in one line. -/
def body (writer : NodeWriter) : Value → Body
  | node _ object => .ofExcept ((writer object).map fun block => [block])
  | list items =>
    if items.any isNode then bodyOfItems writer items else lineBody writer (list items)
  | value => lineBody writer value

def bodyOfItems (writer : NodeWriter) : List Value → Body
  | [] => ⟨[], none⟩
  | item :: rest => (body writer item).append (bodyOfItems writer rest)

end

/-- The value in a block of its own. -/
def nested (writer : NodeWriter) (keyword : String) (value : Value) : Except SceneError Markup :=
  (value.body writer).toExcept.map fun entries => .block none keyword entries

end Value

end SceneCatalog
