import SceneCatalog.Catalog.Rules

/-
This file describes the camera and the lights.
-/

namespace SceneCatalog.Catalog

open Rules

def camera : ClassTable where
  location := ⟨"povgen_schema::tables::objects", "CAMERA"⟩
  name := "Camera"
  superclass := "Primitive"
  immutables := finiteSurface
  attributes := [
    checked "type" "string" (.key Vocabulary.cameraTypes)
        ("type must be one of cylinder, fisheye, meshCamera, omnimax, orthographic, panoramic, " ++
         "perspective, spherical, or ultraWideAngle.")
      |>.needed
      |>.described "Defines the type of the camera.",
    checked "angle" "float|[float]" positiveAngle
        "angle must be a float greater than zero or an array of two floats greater than zero."
      |>.described
        ("Horizontal viewing angle in degrees. Spherical cameras accept a second element for " ++
         "the vertical angle."),
    number "aperture"
      |>.described
        ("Together with blurSamples, enables simulated depth of field. Inversely proportional " ++
         "to the depth of the zone of sharpness."),
    checked "blurSamples" "[float]" blurSamples
        "blurSamples must be an array of one or two floats greater than or equal to zero."
      |>.described "Minimum and, optionally, maximum number of depth-of-field samples.",
    coerced "bokeh" "Color" (.coerce bokeh)
        "bokeh must be a Color in the range <0, 0, 0> to <1, 1, 0>."
      |>.described "Specifies the bokeh color.",
    checked "confidence" "float" confidence "confidence must be a float in the range [0.0, 1.0)."
      |>.described
        ("Confidence interval that decides when enough depth-of-field samples have been taken. " ++
         "The default is 0.9."),
    checked "cylinderType" "integer" (.intWithin 1 4)
        "cylinderType must be an integer in the range (1 - 4)."
      |>.described "Variant of the cylinder camera, 1 through 4.",
    point "direction"
      |>.described
        "Direction vector of the camera before it is moved by lookAt and any rotations.",
    point "focalPoint"
      |>.described "Point at which the image is perfectly focused when aperture is non-zero.",
    point "location" |>.described "Specifies the location of the camera.",
    point "lookAt" |>.described "Point the camera is aimed at.",
    point "right"
      |>.described
        "Along with up, determines the aspect ratio of the image. Defaults to <1.33, 0, 0>.",
    point "sky" |>.described "Determines where up is for the camera before lookAt is applied.",
    point "up"
      |>.described
        "Along with right, determines the aspect ratio of the image. Defaults to <0, 1, 0>.",
    number "variance"
      |>.described
        "Smallest displayable color difference when aperture is non-zero. The default is 1/128.",
    number "vertAngle"
      |>.described "Vertical angle of the viewing area for the spherical camera."]

def lightSource : ClassTable where
  location := ⟨"povgen_schema::tables::objects", "LIGHT_SOURCE"⟩
  name := "LightSource"
  superclass := "Primitive"
  immutables := light
  attributes := [
    point "location" |>.needed |>.described "Location of the light source.",
    color "color" |>.needed |>.described "Color of the light source.",
    checked "adaptive" "integer" (.intWithin 0 Int64.maxValue)
        "adaptive must be an integer greater than or equal to zero."
      |>.described "Adaptive sampling level for area lights.",
    flag "areaIllumination"
      |>.described "If true, full area light diffuse and specular illumination is enabled.",
    flag "areaLight"
      |>.described
        ("If true, the light becomes an area light and axis1, axis2, size1 and size2 must be " ++
         "defined."),
    point "axis1" |>.described "Orientation of the area light along its first axis.",
    point "axis2" |>.described "Orientation of the area light along its second axis.",
    flag "circular" |>.described "If true, the area light grid approximates a circle or ellipse.",
    checked "fadeDistance" "float" (.moreThan 0)
        "fadeDistance must be a float greater than zero."
      |>.described "Distance at which the light is at full intensity.",
    number "fadePower" |>.described "Rate at which intensity decreases beyond fadeDistance.",
    checked "falloff" "float" (.lessThan 90) "falloff must be a float less than 90."
      |>.described "Outer cone within which a spotlight fades to nothing.",
    flag "jitter"
      |>.described "If true, area light positions are randomly moved to reduce banding.",
    checked "looksLike" "Primitive" (.descendant "Primitive") "looksLike must be a Primitive."
      |>.described "Object acting as the physical source of the light.",
    flag "mediaAttenuation"
      |>.described "If true, the light is attenuated by passing through media.",
    flag "mediaInteraction" |>.described "If true (the default), the light interacts with media.",
    flag "orient" |>.described "If true, the area light is oriented toward every surface tested.",
    flag "parallel" |>.described "If true, all light rays are parallel to the line to pointAt.",
    point "pointAt" |>.described "Point a spotlight is aimed at.",
    checked "projectedThrough" "Primitive" (.descendant "Primitive")
        "projectedThrough must be a Primitive."
      |>.described "Object through which the light rays must pass to be visible.",
    checked "radius" "float" (.lessThan 90) "radius must be a float less than 90."
      |>.described "Angle of the cone of light produced by a spotlight.",
    flag "shadowless"
      |>.described "If true, the light neither casts shadows nor causes highlights.",
    checked "size1" "integer" (.intWithin 0 Int64.maxValue)
        "size1 must be an integer greater than or equal to zero."
      |>.described "Number of rows of lights in an area light.",
    checked "size2" "integer" (.intWithin 0 Int64.maxValue)
        "size2 must be an integer greater than or equal to zero."
      |>.described "Number of columns of lights in an area light.",
    checked "tightness" "float" (.within 0 100)
        "tightness must be a float in the range (0 - 100)."
      |>.described "Modifies the relationship between radius and falloff.",
    checked "type" "string" (.oneOf Vocabulary.lightTypes)
        "type must be one of cylinder, point, or spotlight."
      |>.needed
      |>.described "Type of the light."]

end SceneCatalog.Catalog
