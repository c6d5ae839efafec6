import SceneCatalog.Scene.Modifiers
import SceneCatalog.Schema.Vocabulary

/-
This file lays out cameras and lights.
-/

namespace SceneCatalog.Layout

/-- Cylinder cameras have a variant, by default the first one. -/
def cameraType (writer : NodeWriter) (object : Object) : Except SceneError (List String) := do
  let kind ← (← object.required "type").keyed Vocabulary.cameraTypes writer
  if kind == "cylinder" then
    let variant ← textIfSet writer object "cylinderType"
    return ["cylinder " ++ variant.getD "1"]
  else return [kind]

/-- The vertical angle is the second angle, unless the angle has one of its own. -/
def cameraAngle (writer : NodeWriter) (object : Object) : Except SceneError (List String) := do
  match object.value? "angle" with
  | none => return []
  | some angle =>
    let horizontal ← match angle.floats? with
      | some numbers => pure (numbers.map numberText)
      | none => (angle.verbatim writer).map fun text => [text]
    let vertical ←
      if horizontal.length == 1 then textIfSet writer object "vertAngle" else pure none
    return ["angle " ++ " ".intercalate (horizontal ++ vertical.toList)]

def cameraBokeh (writer : NodeWriter) (object : Object) : Except SceneError (List String) := do
  match ← textIfSet writer object "bokeh" with
  | some color => return ["bokeh \x7b pigment \x7b " ++ color ++ " \x7d \x7d"]
  | none => return []

def camera : Layout := immaterial "camera" [.always [
  .lines cameraType,
  .setting "location" "location", .setting "direction" "direction", .setting "right" "right",
  .setting "up" "up", .setting "sky" "sky",
  .lines cameraAngle,
  .setting "lookAt" "look_at", .setting "focalPoint" "focal_point",
  .setting "aperture" "aperture", .setting "blurSamples" "blur_samples",
  .setting "confidence" "confidence", .setting "variance" "variance",
  .lines cameraBokeh]]

/-- Point lights are the kind that has no word. -/
def lightType (writer : NodeWriter) (object : Object) : Except SceneError (List String) := do
  let kind ← object.required "type"
  match kind.asText? with
  | some "point" => return []
  | some other => return [other]
  | none => return [← kind.verbatim writer]

def lightSource : Layout := immaterial "light_source" [
  .always [
    .line (values ["location", "color"]),
    .lines lightType,
    .flag "parallel" "parallel", .setting "pointAt" "point_at", .setting "radius" "radius",
    .setting "falloff" "falloff", .setting "tightness" "tightness"],
  .whileOn "areaLight" [
    .line (.words "area_light " :: values ["axis1", "axis2", "size1", "size2"]),
    .setting "adaptive" "adaptive", .flag "jitter" "jitter", .flag "circular" "circular",
    .flag "orient" "orient"],
  .always [
    .toggle "areaIllumination" "area_illumination",
    .setting "fadeDistance" "fade_distance", .setting "fadePower" "fade_power",
    .toggle "mediaAttenuation" "media_attenuation",
    .toggle "mediaInteraction" "media_interaction",
    .flag "shadowless" "shadowless",
    .nested "looksLike" "looks_like", .nested "projectedThrough" "projected_through"]]

end SceneCatalog.Layout
