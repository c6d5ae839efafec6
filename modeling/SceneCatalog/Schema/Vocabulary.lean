import SceneCatalog.Schema.Keyword

/-
This file lists the words that string attributes accept.
-/

namespace SceneCatalog.Vocabulary

def cameraTypes : Vocabulary :=
  [⟨"cylinder", "cylinder"⟩, ⟨"fisheye", "fisheye"⟩, ⟨"meshCamera", "mesh_camera"⟩,
   ⟨"omnimax", "omnimax"⟩, ⟨"orthographic", "orthographic"⟩, ⟨"panoramic", "panoramic"⟩,
   ⟨"perspective", "perspective"⟩, ⟨"spherical", "spherical"⟩,
   ⟨"ultraWideAngle", "ultra_wide_angle"⟩]

def splineTypes : Vocabulary :=
  [⟨"bezierSpline", "bezier_spline"⟩, ⟨"cubicSpline", "cubic_spline"⟩,
   ⟨"linearSpline", "linear_spline"⟩, ⟨"quadraticSpline", "quadratic_spline"⟩]

def prismTypes : Vocabulary :=
  [⟨"bezierSpline", "bezier_spline"⟩, ⟨"conicSweep", "conic_sweep"⟩,
   ⟨"cubicSpline", "cubic_spline"⟩, ⟨"linearSpline", "linear_spline"⟩,
   ⟨"linearSweep", "linear_sweep"⟩, ⟨"quadraticSpline", "quadratic_spline"⟩]

/-- The splines of sphere sweeps. -/
def sweepTypes : Vocabulary :=
  [⟨"bSpline", "b_spline"⟩, ⟨"cubicSpline", "cubic_spline"⟩, ⟨"linearSpline", "linear_spline"⟩]

def fontTypes : Vocabulary :=
  [⟨"internal", "internal"⟩, ⟨"ttc", "ttc"⟩, ⟨"ttf", "ttf"⟩]

/-- The formats of rendered images have codes of one letter. -/
def outputFileTypes : Vocabulary :=
  [⟨"bmp", "B"⟩, ⟨"exr", "E"⟩, ⟨"hdr", "H"⟩, ⟨"jpeg", "J"⟩, ⟨"png", "N"⟩, ⟨"ppm", "P"⟩,
   ⟨"sys", "S"⟩, ⟨"targa", "T"⟩, ⟨"targaCompressed", "C"⟩]

def heightFieldTypes : List String :=
  ["exr", "gif", "hdr", "iff", "jpeg", "pgm", "png", "pot", "ppm", "sys", "tga", "tiff"]

def juliaFractalTypes : List String :=
  ["hypercomplex:acos", "hypercomplex:acosh", "hypercomplex:asin", "hypercomplex:atan",
   "hypercomplex:atanh", "hypercomplex:cos", "hypercomplex:cosh", "hypercomplex:cube",
   "hypercomplex:exp", "hypercomplex:ln", "hypercomplex:pwr", "hypercomplex:reciprocal",
   "hypercomplex:sin", "hypercomplex:sinh", "hypercomplex:sqr", "hypercomplex:tan",
   "hypercomplex:tanh", "quaternion:cube", "quaternion:sqr"]

def lightTypes : List String := ["cylinder", "point", "spotlight"]

def charsets : List String := ["ascii", "sys", "utf8"]

end SceneCatalog.Vocabulary
