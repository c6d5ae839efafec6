import SceneCatalog.Scene.Modifiers
import SceneCatalog.Schema.Vocabulary

/-
This file lays out the plain solids.
-/

namespace SceneCatalog.Layout

def box : Layout := material "box" [.line (values ["corner1", "corner2"])]

def cone : Layout := material "cone" [
  .line (values ["basePoint", "baseRadius", "capPoint", "capRadius"]), .flag "open" "open"]

/-- The strength of a blob component. -/
def strength : Piece := .optional ", strength " "strength"

def cylinder : Layout := material "cylinder" [
  .line (values ["basePoint", "capPoint", "radius"] ++ [strength]), .flag "open" "open"]

def ovus : Layout := material "ovus" [.line (values ["bottomRadius", "topRadius"])]

def plane : Layout := material "plane" [.line (values ["normal", "distance"])]

def sphere : Layout := material "sphere" [.line (values ["center", "radius"] ++ [strength])]

def superellipsoid : Layout := material "superellipsoid" [
  .line ([.words "<"] ++ values ["e", "n"] ++ [.words ">"])]

def text : Layout := material "text" [
  .line [.keyed Vocabulary.fontTypes "fontType", .words " ", .quoted "font", .words " ",
    .quoted "displayText"],
  .line (values ["thickness", "offset"])]

def torus : Layout := material "torus" (.line (values ["majorRadius", "minorRadius"]) :: solver)

end SceneCatalog.Layout
