import SceneCatalog.Catalog.Rules

/-
This file describes the options of rendering an image.
-/

namespace SceneCatalog.Catalog

open Rules

def imageOptions : ClassTable where
  location := ⟨"povgen_schema::tables::image_options", "IMAGE_OPTIONS"⟩
  name := "ImageOptions"
  description :=
    ("The ImageOptions class holds the render settings that are written to the INI file passed " ++
     "to POV-Ray alongside the scene.")
  attributes := [
    flag "antialias" |>.described "If true, antialiasing is performed.",
    checked "antialiasDepth" "integer" (.intWithin 1 9)
        "antialiasDepth must be an integer in the range (1 - 9)."
      |>.described "Depth of recursive supersampling. The default is 3.",
    number "antialiasGamma"
      |>.described "Gamma applied to color comparisons during antialiasing.",
    checked "antialiasThreshold" "float" (.atLeast 0)
        "antialiasThreshold must be a float greater than or equal to zero."
      |>.described "Color difference between neighboring pixels that triggers supersampling.",
    checked "bitsPerColor" "integer" (.intWithin 5 16)
        "bitsPerColor must be an integer in the range (5 - 16)."
      |>.described "Number of bits per color channel in the output file.",
    flag "createIni"
      |>.described "If true, POV-Ray writes the options it actually used to an INI file.",
    flag "display" |>.described "If true, the image is displayed while rendering.",
    checked "endColumn" "integer" (.intWithin 1 Int64.maxValue)
        "endColumn must be a positive integer."
      |>.described "Last column of the image to render.",
    checked "endRow" "integer" (.intWithin 1 Int64.maxValue) "endRow must be a positive integer."
      |>.described "Last row of the image to render.",
    checked "height" "integer" (.intWithin 1 Int64.maxValue) "height must be a positive integer."
      |>.described "Height of the output image in pixels.",
    words "includeHeader"
      |>.described "File included at the top of the scene before anything else is parsed.",
    flag "jitter" |>.described "If true, supersampling positions are jittered.",
    checked "jitterAmount" "float" (.within 0 1)
        "jitterAmount must be a float in the unit interval (0.0 - 1.0)."
      |>.described "Amount of jitter applied to supersampling positions.",
    words "libraryPath" |>.described "Additional directory searched for include files.",
    flag "outputAlpha" |>.described "If true, an alpha channel is written to the output.",
    words "outputFileName" |>.described "Name of the rendered image file.",
    checked "outputFileType" "string" (.key Vocabulary.outputFileTypes)
        ("outputFileType must be one of 'bmp', 'exr', 'hdr', 'jpeg', 'png', 'ppm', 'sys', " ++
         "'targa', or 'targaCompressed'.")
      |>.described "Format of the rendered image file.",
    flag "outputToFile" |>.startingAt (.bool true)
      |>.described "If false, no image file is written.",
    flag "pauseWhenDone" |>.described "If true, POV-Ray waits for a keypress after rendering.",
    checked "quality" "integer" (.intWithin 0 11)
        "quality must be an integer in the range (0 - 11)."
      |>.described "Rendering quality, from 0 (rough) to 11 (everything enabled).",
    checked "renderBlockSize" "integer" (.intWithin 4 Int64.maxValue)
        "renderBlockSize must be an integer greater than or equal to 4."
      |>.described "Edge length of the square blocks handed to render threads.",
    checked "samplingMethod" "integer" (.intWithin 1 2) "samplingMethod must be either 1 or 2."
      |>.described "Antialiasing method: 1 is non-recursive, 2 is adaptive recursive.",
    checked "startColumn" "integer" (.intWithin 1 Int64.maxValue)
        "startColumn must be a positive integer."
      |>.described "First column of the image to render.",
    checked "startRow" "integer" (.intWithin 1 Int64.maxValue)
        "startRow must be a positive integer."
      |>.described "First row of the image to render.",
    flag "verbose" |>.described "If true, POV-Ray prints detailed progress information.",
    checked "width" "integer" (.intWithin 1 Int64.maxValue) "width must be a positive integer."
      |>.described "Width of the output image in pixels.",
    checked "workThreads" "integer" (.intWithin 1 512)
        "workThreads must be an integer in the range (1 - 512)."
      |>.described "Number of render threads."]

end SceneCatalog.Catalog
