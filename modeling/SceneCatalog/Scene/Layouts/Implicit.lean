import SceneCatalog.Scene.Modifiers
import SceneCatalog.Text.Blank

/-
This file lays out the objects that formulas or images define.
-/

namespace SceneCatalog.Layout

/-- The text behind the last occurrence of a character. -/
def afterLast? (mark : Char) (text : List Char) : Option (List Char) :=
  if text.contains mark then some (text.reverse.takeWhile (· != mark)).reverse else none

/-- The texts in front of the first occurrence of a character and behind it. -/
def splitAtFirst? (mark : Char) (text : List Char) : Option (List Char × List Char) :=
  if text.contains mark then
    some (text.takeWhile (· != mark), (text.dropWhile (· != mark)).drop 1)
  else none

/-- The format of an image is named by the end of the file's name, or else is png. -/
def imageType (file : String) : String :=
  match afterLast? '.' file.toList with
  | some ending => String.ofList (ending.map Char.toLower)
  | none => "png"

/-- A string that does not start like a function names an image. -/
def namesImage (source : String) : Bool :=
  !"function".toList.isPrefixOf (Text.trimStart source.toList)

def heightFieldSource (writer : NodeWriter) (object : Object) :
    Except SceneError (List String) := do
  let source ← object.required "source"
  match source with
  | .text file =>
    if namesImage file then
      let kind ← textIfSet writer object "hfType"
      return [kind.getD (imageType file) ++ " " ++ Text.quote file]
    else return [file]
  | source => return [← source.verbatim writer]

def heightFieldGamma (writer : NodeWriter) (object : Object) :
    Except SceneError (List String) := do
  match object.value? "gamma" with
  | none => return []
  | some gamma =>
    match gamma.asText? with
    | some "sRGB" => return ["gamma srgb"]
    | _ => return ["gamma " ++ (← gamma.verbatim writer)]

def heightField : Layout := material "height_field" [
  .lines heightFieldSource, .flag "smooth" "smooth", .setting "waterLevel" "water_level",
  hierarchy, .lines heightFieldGamma, .toggle "premultiplied" "premultiplied"]

def isoSurfaceTrace (writer : NodeWriter) (object : Object) :
    Except SceneError (List String) := do
  match object.value? "maxTrace" with
  | none => return []
  | some trace =>
    match trace.asText? with
    | some "allIntersections" => return ["all_intersections"]
    | _ => return ["max_trace " ++ (← trace.verbatim writer)]

def isoSurface : Layout := material "isosurface" [
  .line [.value "source"], .nested "containedBy" "contained_by", .setting "threshold" "threshold",
  .setting "accuracy" "accuracy", .setting "maxGradient" "max_gradient",
  .setting "evaluate" "evaluate", .flag "open" "open", .lines isoSurfaceTrace]

/-- The algebra and the function of a formula stand in lines of their own. The exponents of a power
follow its name. -/
def juliaFormula (writer : NodeWriter) (object : Object) : Except SceneError (List String) := do
  let kind ← object.required "type"
  match kind.asText?.bind (splitAtFirst? ':' ·.toList) with
  | none => return [← kind.verbatim writer]
  | some (algebra, function) =>
    let power := (object.value? "power").bind Value.asVector?
    let call := match String.ofList function, power with
      | "pwr", some exponents =>
        "pwr " ++ ", ".intercalate (exponents.components.map numberText)
      | name, _ => name
    return [String.ofList algebra, call]

/-- The slice is taken at the distance, by default through the origin. -/
def juliaSlice (writer : NodeWriter) (object : Object) : Except SceneError (List String) := do
  match object.value? "slice" with
  | none => return []
  | some slice =>
    let distance ← textIfSet writer object "distance"
    return ["slice " ++ (← slice.verbatim writer) ++ ", " ++ distance.getD "0"]

def juliaFractal : Layout := material "julia_fractal" [
  .line [.value "juliaParam"], .lines juliaFormula, .setting "maxIter" "max_iteration",
  .setting "precision" "precision", .lines juliaSlice]

/-- Coordinates are calculated in advance for the axes that ask for it. -/
def precomputed (writer : NodeWriter) (object : Object) : Except SceneError (List String) := do
  match object.value? "precomputeDepth" with
  | none => return []
  | some depth =>
    let axes := [("precomputeX", "x"), ("precomputeY", "y"), ("precomputeZ", "z")].filter
      fun axis => object.flag? axis.1 == some true
    if axes.isEmpty then return []
    else
      return ["precompute " ++ (← depth.verbatim writer) ++ ", " ++
        ", ".intercalate (axes.map (·.2))]

def parametric : Layout := material "parametric" [
  .line [.value "funcX", .words ","], .line [.value "funcY", .words ","],
  .line [.value "funcZ"], .line (values ["uv1", "uv2"]),
  .nested "containedBy" "contained_by", .setting "maxGradient" "max_gradient",
  .setting "accuracy" "accuracy", .lines precomputed]

def coefficientList (keyword : String) : Layout :=
  material keyword (.line [.angled "coefficients"] :: solver)

def cubic : Layout := coefficientList "cubic"

def quartic : Layout := coefficientList "quartic"

def poly : Layout := material "poly" (
  .line [.value "order", .words ", ", .angled "coefficients"] :: solver)

/-- A term has the powers of the three coordinates and a coefficient. -/
def polynomialTerm (writer : NodeWriter) (term : Value) : Except SceneError String :=
  match (term.asVector?.map (·.components)) with
  | some [x, y, z, coefficient] =>
    .ok ("xyz(" ++ numberText x ++ ", " ++ numberText y ++ ", " ++ numberText z ++ "):" ++
      numberText coefficient)
  | _ => term.verbatim writer

def polynomialTerms (writer : NodeWriter) (object : Object) :
    Except SceneError (List String) := do
  let coefficients ← object.required "coefficients"
  match coefficients.asList? with
  | some terms => return separated (← terms.mapM (polynomialTerm writer))
  | none => return [← coefficients.verbatim writer]

def polynomial : Layout := material "polynomial" (
  [.line [.value "order", .words ","], .lines polynomialTerms] ++ solver)

/-- Ten coefficients fall into three tuples and a constant. -/
def quadricCoefficients (writer : NodeWriter) (object : Object) :
    Except SceneError (List String) := do
  let coefficients ← object.required "coefficients"
  match coefficients.asList? with
  | some [a, b, c, d, e, f, g, h, i, j] =>
    let squares ← joined writer [a, b, c]
    let products ← joined writer [d, e, f]
    let linear ← joined writer [g, h, i]
    return ["<" ++ squares ++ ">, <" ++ products ++ ">, <" ++ linear ++ ">, " ++
      (← j.verbatim writer)]
  | _ => return [← coefficients.verbatim writer]

def quadric : Layout := material "quadric" [.lines quadricCoefficients]

end SceneCatalog.Layout
