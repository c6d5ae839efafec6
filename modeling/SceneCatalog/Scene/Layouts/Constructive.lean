import SceneCatalog.Scene.Modifiers

/-
This file lays out the objects that are made of other objects.
-/

namespace SceneCatalog.Layout

def blob : Layout := material "blob" (
  [.setting "threshold" "threshold", .parts "components"] ++ solver)

def difference : Layout := material "difference" [
  .parts "positiveComponent", .parts "negativeComponents"]

def intersection : Layout := material "intersection" [.parts "components"]

def merge : Layout := material "merge" [.parts "components"]

def union : Layout := material "union" [
  .parts "components", .switchedOff "splitUnion" "split_union off"]

end SceneCatalog.Layout
