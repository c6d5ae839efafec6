import SceneCatalog.Scene.Clause

/-
This file lays out the settings that hold for a whole scene.
-/

namespace SceneCatalog.Layout

/-- Photons, radiosity and subsurface light have blocks of their own while they are switched on. -/
def globalSettings : Layout where
  keyword _ := "global_settings"
  sections := [
    .always [
      .setting "adcBailout" "adc_bailout", .setting "ambientLight" "ambient_light",
      .setting "assumedGamma" "assumed_gamma", .setting "iridWavelength" "irid_wavelength",
      .setting "maxIntersections" "max_intersections",
      .setting "maxTraceLevel" "max_trace_level", .setting "mmPerUnit" "mm_per_unit",
      .setting "noiseGenerator" "noise_generator", .setting "numberOfWaves" "number_of_waves",
      .setting "charset" "charset"],
    .blockWhileOn "photon" "photons" [
      .setting "photonCount" "count", .setting "photonSpacing" "spacing",
      .setting "photonGather" "gather", .setting "photonMedia" "media",
      .setting "photonJitter" "jitter", .setting "photonMaxTraceLevel" "max_trace_level",
      .setting "photonAdcBailout" "adc_bailout", .setting "photonAutostop" "autostop",
      .setting "photonExpandThresholds" "expand_thresholds",
      .setting "photonRadius" "radius",
      .file "photonLoadFile" "load_file", .file "photonSaveFile" "save_file"],
    .blockWhileOn "radiosity" "radiosity" [
      .setting "radAdcBailout" "adc_bailout", .setting "radBrightness" "brightness",
      .setting "radCount" "count", .setting "radErrorBound" "error_bound",
      .setting "radGrayThreshold" "gray_threshold",
      .setting "radLowErrorFactor" "low_error_factor",
      .setting "radMaximumReuse" "maximum_reuse", .setting "radMinimumReuse" "minimum_reuse",
      .setting "radMaxSample" "max_sample", .setting "radNearestCount" "nearest_count",
      .setting "radPretraceEnd" "pretrace_end", .setting "radPretraceStart" "pretrace_start",
      .setting "radRecursionLimit" "recursion_limit",
      .toggle "radAlwaysSample" "always_sample", .toggle "radNormal" "normal",
      .toggle "radSubsurface" "subsurface"],
    .blockWhileOn "subsurface" "subsurface" [
      .setting "subSamples" "samples", .toggle "subRadiosity" "radiosity"]]

end SceneCatalog.Layout
