import SceneCatalog.Catalog.Rules

/-
This file describes the settings that hold for a whole scene.
-/

namespace SceneCatalog.Catalog

open Rules

def globalSettings : ClassTable where
  location := ⟨"povgen_schema::tables::global_settings", "GLOBAL_SETTINGS"⟩
  name := "GlobalSettings"
  description :=
    ("The GlobalSettings class manages the variables that will be output into the SDL " ++
     "global_settings block.")
  attributes := [
    checked "adcBailout" "float" (.atLeast 0)
        "adcBailout must be a float greater than or equal to zero."
      |>.described
        ("Defines the Adaptive Depth Control bailout value, which determines when to stop " ++
         "tracing further reflections once they cease to contribute significantly to the color " ++
         "of the current pixel. Defaults to 0.0039."),
    color "ambientLight"
      |>.described
        ("Specifies the color of the ambient light, i.e., the illumination that falls on every " ++
         "object from all directions in the absence of any explicit LightSource."),
    number "assumedGamma" |>.described "Defines the working gamma space for the render.",
    checked "charset" "string" (.oneOf Vocabulary.charsets)
        "charset must be one of 'ascii', 'utf8', or 'sys'."
      |>.described
        ("Specifies which character set will be used in interpreting the contents of text " ++
         "strings. The default is ascii."),
    color "iridWavelength"
      |>.described
        ("Specifies a color to use in iridescence calculations. The default, [0.70, 0.52, " ++
         "0.48], will rarely if ever need to be changed."),
    checked "maxIntersections" "integer" (.intWithin 0 Int64.maxValue)
        "maxIntersections must be an integer greater than or equal to zero."
      |>.described
        ("Sets the size of POV-Ray's internal I-Stacks for tracking ray/object intersections. " ++
         "The default is 64."),
    checked "maxTraceLevel" "integer" (.intWithin 0 256)
        "maxTraceLevel must be an integer in the range (0 - 256)."
      |>.described
        ("Sets an upper limit on the number of reflections that a ray can undergo before " ++
         "calculations are stopped and the pixel returns as black."),
    checked "mmPerUnit" "float" (.atLeast 0)
        "mmPerUnit must be a float greater than or equal to zero."
      |>.described
        ("Sets the number of millimeters per unit of space, which affects the behavior of " ++
         "subsurface transport. The default is 10."),
    checked "noiseGenerator" "integer" (.intWithin 1 3)
        "noiseGenerator must be an integer and one of 1, 2, or 3."
      |>.described "Specifies which noise generator POV-Ray will use. The default is 2.",
    checked "numberOfWaves" "integer" (.intWithin 0 Int64.maxValue)
        "numberOfWaves must be an integer greater than or equal to zero."
      |>.described
        ("Specifies the number of waves used by the waves and ripples texture patterns. The " ++
         "default is 10."),
    flag "photon"
      |>.described
        "If true, photons are enabled and the photon* parameters are emitted in output.",
    checked "photonAdcBailout" "float" (.atLeast 0)
        "photonAdcBailout must be a float greater than or equal to zero."
      |>.described "Adaptive Depth Control bailout for photon rays.",
    checked "photonAutostop" "float" (.within 0 1)
        "photonAutostop must be a float within the unit interval (0.0 - 1.0)."
      |>.described
        ("Fraction of an object's bounding box that may be searched without photon hits before " ++
         "shooting stops."),
    checked "photonCount" "integer" (.intWithin 0 Int64.maxValue)
        "photonCount must be an integer greater than or equal to zero."
      |>.described "Approximate total number of photons to shoot. Overrides photonSpacing.",
    checked "photonExpandThresholds" "[float, integer]" expandThresholds
        "photonExpandThresholds must be an array consisting of a float and an integer."
      |>.described
        ("Percentage by which the gather radius may grow, and the minimum number of photons " ++
         "that triggers the expansion."),
    checked "photonGather" "[integer]" gather
        ("photonGather must be an array of two integers greater than or equal to zero in " ++
         "ascending order.")
      |>.described "Minimum and maximum number of photons gathered at each point.",
    number "photonJitter" |>.described "Amount of jitter applied to photon shooting.",
    words "photonLoadFile" |>.described "Loads a previously saved photon map from this file.",
    checked "photonMaxTraceLevel" "integer" (.intWithin 0 Int64.maxValue)
        "photonMaxTraceLevel must be an integer greater than or equal to zero."
      |>.described "Overrides maxTraceLevel for photon rays.",
    checked "photonMedia" "[float]" (.list 2 (some 2) .number)
        "photonMedia must be an array of two floats."
      |>.described "Maximum number of media photon steps and the media spacing multiplier.",
    checked "photonRadius" "[float]" (.list 4 (some 4) .number)
        "photonRadius must be an array of four floats."
      |>.described "Gather radius, its multiplier, and the media radius and multiplier.",
    words "photonSaveFile" |>.described "Saves the computed photon map to this file.",
    checked "photonSpacing" "float" (.moreThan 0)
        "photonSpacing must be a float greater than zero."
      |>.described "Average distance between photons on surfaces.",
    number "radAdcBailout"
      |>.described "Specifies an Adaptive Depth Control for radiosity rays. The default is 0.01.",
    flag "radAlwaysSample"
      |>.described
        ("If true, new samples will be gathered during the final radiosity pass. This is slower " ++
         "and often produces lower-quality results, so the default is false."),
    number "radBrightness"
      |>.described
        ("Specifies the amount by which the brightness of objects should be adjusted before " ++
         "being returned to the rest of the system. The default is 1.0."),
    checked "radCount" "[integer]" radiosityCount
        ("radCount must be an array of one or two integers, both of which must be greater than " ++
         "or equal to one.")
      |>.described
        ("Number of radiosity rays emitted when a new radiosity value is needed, optionally " ++
         "followed by the number of directions to choose from. The default is 35."),
    number "radErrorBound"
      |>.described
        ("Specifies the tolerated error and defaults to 1.8. Lower values are more accurate but " ++
         "require higher radCount values."),
    checked "radGrayThreshold" "float" (.within 0 1)
        "radGrayThreshold must be a float in the unit interval (0.0 - 1.0)."
      |>.described "Counteracts color bleed by desaturating reflected light.",
    flag "radiosity"
      |>.described "If true, radiosity is enabled and the rad* parameters are emitted in output.",
    number "radLowErrorFactor"
      |>.described
        "Multiplies radErrorBound during preliminary passes to reduce blotchy artifacts.",
    number "radMaximumReuse" |>.described "Sets an upper bound on the reuse of samples.",
    number "radMaxSample"
      |>.described
        ("Defines an upper limit on the brightness of radiosity samples, which can correct for " ++
         "some brightness artifacts at the expense of realism."),
    number "radMinimumReuse" |>.described "Sets a lower bound on the reuse of samples.",
    checked "radNearestCount" "integer" (.intWithin 1 20)
        "radNearestCount must be an integer in the range 1-20."
      |>.described
        ("Minimum number of old radiosity values blended together to create a new interpolated " ++
         "value. Defaults to 5."),
    flag "radNormal" |>.described "If true, radiosity will be affected by normal perturbations.",
    checked "radPretraceEnd" "float" (.within 0 1)
        "radPretraceEnd must be a float in the unit interval (0.0 - 1.0)."
      |>.described
        "Size of mosaic blocks at the end of the pretrace phase as a fraction of image size.",
    checked "radPretraceStart" "float" (.within 0 1)
        "radPretraceStart must be a float in the unit interval (0.0 - 1.0)."
      |>.described
        "Size of mosaic blocks at the start of the pretrace phase as a fraction of image size.",
    checked "radRecursionLimit" "integer" (.intWithin 1 20)
        "radRecursionLimit must be an integer in the range 1-20."
      |>.described
        ("Determines how many recursion levels are used to calculate the diffuse " ++
         "inter-reflection."),
    flag "radSubsurface"
      |>.described
        "If true, radiosity calculations will take subsurface light transport into account.",
    flag "subRadiosity"
      |>.described
        "If true, subsurface effects will be applied to incoming radiosity illumination.",
    checked "subSamples" "[integer]" (.list 2 (some 2) .int)
        "subSamples must be an array of two integers."
      |>.described
        ("Number of samples to use for diffuse scattering and single-scattering approximation. " ++
         "The default for both is 50."),
    flag "subsurface"
      |>.described
        ("If true, subsurface light transport is enabled and the sub* parameters are emitted in " ++
         "output.")]

end SceneCatalog.Catalog
