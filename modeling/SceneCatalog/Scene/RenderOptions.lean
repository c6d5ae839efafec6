import SceneCatalog.Scene.Writing

/-
This file writes the options of rendering an image, one setting a line.
-/

namespace SceneCatalog.RenderOptions

/-- The attributes and their keys, in the order of the output. -/
def keys : List (String × String) := [
  ("width", "Width"), ("height", "Height"), ("startColumn", "Start_Column"),
  ("endColumn", "End_Column"), ("startRow", "Start_Row"), ("endRow", "End_Row"),
  ("quality", "Quality"), ("antialias", "Antialias"), ("antialiasDepth", "Antialias_Depth"),
  ("antialiasGamma", "Antialias_Gamma"), ("antialiasThreshold", "Antialias_Threshold"),
  ("samplingMethod", "Sampling_Method"), ("jitter", "Jitter"), ("jitterAmount", "Jitter_Amount"),
  ("bitsPerColor", "Bits_Per_Color"), ("outputAlpha", "Output_Alpha"),
  ("outputToFile", "Output_To_File"), ("outputFileName", "Output_File_Name"),
  ("outputFileType", "Output_File_Type"), ("includeHeader", "Include_Header"),
  ("libraryPath", "Library_Path"), ("display", "Display"), ("pauseWhenDone", "Pause_When_Done"),
  ("verbose", "Verbose"), ("createIni", "Create_Ini"), ("renderBlockSize", "Render_Block_Size"),
  ("workThreads", "Work_Threads")]

/-- Formats of images are written by their code, flags as a switch and all else as it stands. -/
def valueText (name : String) (value : Value) : Except SceneError String :=
  match value with
  | .bool flag => .ok (onOff flag)
  | .text content =>
    if name == "outputFileType" then
      match Vocabulary.outputFileTypes.word? content with
      | some code => .ok code
      | none =>
        .error (.serialize "ImageOptions" ("unknown output type '" ++ content ++ "'"))
    else .ok content
  | value => value.verbatimText

def settings (object : Object) : List (String × String) → Except SceneError (List String)
  | [] => .ok []
  | (name, key) :: rest =>
    match object.value? name with
    | none => settings object rest
    | some value => do
      let text ← valueText name value
      return (key ++ "=" ++ text ++ "\n") :: (← settings object rest)

def write (object : Object) : Except SceneError String := do
  object.requireOwn
  return String.join (← settings object keys)

end SceneCatalog.RenderOptions
