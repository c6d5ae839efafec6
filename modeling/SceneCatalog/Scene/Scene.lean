import SceneCatalog.Scene.Writing

/-
This file writes whole scenes.
-/

namespace SceneCatalog

/-- Objects stand in a scene in the order in which they were added. -/
structure Scene where
  includes : List String
  settings : Option Object
  objects : List Object

namespace Scene

def empty : Scene := ⟨[], none, []⟩

def withInclude (scene : Scene) (file : String) : Scene :=
  { scene with includes := scene.includes ++ [file] }

def withSettings (scene : Scene) (settings : Object) : Scene :=
  { scene with settings := some settings }

def add (scene : Scene) (object : Object) : Scene :=
  { scene with objects := scene.objects ++ [object] }

def version : String := "#version 3.7;"

def includeSection (includes : List String) : List String :=
  if includes.isEmpty then []
  else ["\n".intercalate (includes.map fun file => "#include " ++ Text.quote file)]

def settingsSection : Option Object → Except SceneError (List String)
  | none => .ok []
  | some settings => (settings.settingsText 0).map fun text => [text]

/-- Inactive objects are left out. -/
def objectSections (objects : List Object) : Except SceneError (List String) :=
  (objects.filter Object.isActive).mapM (·.sceneText 0)

/-- Blank lines stand between the parts of a scene. -/
def write (scene : Scene) : Except SceneError String := do
  let settings ← settingsSection scene.settings
  let objects ← objectSections scene.objects
  return "\n\n".intercalate
    (version :: includeSection scene.includes ++ settings ++ objects) ++ "\n"

end Scene

end SceneCatalog
