import SceneCatalog.Catalog.Rules

/-
This file describes what all objects of a scene have in common.
-/

namespace SceneCatalog.Catalog

open Rules

def primitive : ClassTable where
  location := ⟨"povgen_schema::tables::primitive", "PRIMITIVE"⟩
  name := "Primitive"
  description :=
    ("Primitive is the base class for every geometric object. It holds the modifiers that all " ++
     "objects share: identity, material, clipping and the render flags.")
  attributes := [
    flag "active" |>.startingAt (.bool true)
      |>.described "If false, the object is skipped when the scene is written.",
    checked "boundedBy" "Primitive" (.descendant "Primitive") "boundedBy must be a Primitive."
      |>.described "Manual bounding object used to speed up intersection tests.",
    checked "clippedBy" "Primitive" (.descendant "Primitive") "clippedBy must be a Primitive."
      |>.described "Object whose interior defines the visible portion of this one.",
    flag "doubleIlluminate"
      |>.described "If true, the object is lit on both sides of its surface.",
    flag "hollow" |>.described "If true, the object can contain media and fog.",
    words "id" |>.described "Identifier written as a comment above the object.",
    sceneText "interior" |>.described "SDL interior block, emitted verbatim.",
    flag "inverse" |>.described "If true, inside and outside are swapped.",
    sceneText "material" |>.described "SDL material block, emitted verbatim.",
    flag "noImage" |>.described "If true, the object is invisible to camera rays.",
    flag "noRadiosity" |>.described "If true, the object is invisible to radiosity rays.",
    flag "noReflection" |>.described "If true, the object does not appear in reflections.",
    flag "noShadow" |>.described "If true, the object casts no shadows.",
    sceneText "photons" |>.described "SDL photons block, emitted verbatim.",
    sceneText "radiosity" |>.described "SDL radiosity block, emitted verbatim.",
    sceneText "texture" |>.described "SDL texture block, emitted verbatim.",
    sceneText "transform"
      |>.described "Transformation statements such as scale, rotate and translate."]

end SceneCatalog.Catalog
