import SceneCatalog.Catalog.Rules

/-
This file describes the coordinate and colour classes, which take their components one by one.
-/

namespace SceneCatalog.Catalog

open Rules

def vectorXY : ClassTable where
  location := ⟨"povgen_schema::tables::vectors", "VECTOR_XY"⟩
  name := "VectorXY"
  description := "A two-dimensional point or direction."
  attributes := [
    number "x" |>.needed,
    number "y" |>.needed]
  parameters := "x: f64, y: f64"
  body := "this.set_x(x)?;\nthis.set_y(y)?;"

def vectorUV : ClassTable where
  location := ⟨"povgen_schema::tables::vectors", "VECTOR_UV"⟩
  name := "VectorUV"
  description := "A point in the UV plane of a parametric surface."
  attributes := [
    number "u" |>.needed,
    number "v" |>.needed]
  parameters := "u: f64, v: f64"
  body := "this.set_u(u)?;\nthis.set_v(v)?;"

def vectorXYZ : ClassTable where
  location := ⟨"povgen_schema::tables::vectors", "VECTOR_XYZ"⟩
  name := "VectorXYZ"
  description := "A three-dimensional point or direction."
  attributes := [
    number "x" |>.needed,
    number "y" |>.needed,
    number "z" |>.needed]
  parameters := "x: f64, y: f64, z: f64"
  body := "this.set_x(x)?;\nthis.set_y(y)?;\nthis.set_z(z)?;"

def vectorXYZW : ClassTable where
  location := ⟨"povgen_schema::tables::vectors", "VECTOR_XYZW"⟩
  name := "VectorXYZW"
  description := "A four-dimensional vector, used by julia fractals and polynomials."
  attributes := [
    number "x" |>.needed,
    number "y" |>.needed,
    number "z" |>.needed,
    number "w" |>.needed]
  parameters := "x: f64, y: f64, z: f64, w: f64"
  body := "this.set_x(x)?;\nthis.set_y(y)?;\nthis.set_z(z)?;\nthis.set_w(w)?;"

def colorVector : ClassTable where
  location := ⟨"povgen_schema::tables::vectors", "COLOR"⟩
  name := "Color"
  description :=
    ("An RGB color with optional filter and transmit channels. Channels are nominally in the " ++
     "unit interval but may exceed it for over-bright lights.")
  attributes := [
    number "r" |>.needed |>.described "Red channel.",
    number "g" |>.needed |>.described "Green channel.",
    number "b" |>.needed |>.described "Blue channel.",
    number "f" |>.startingAt (.float 0) |>.described "Filter channel.",
    number "t" |>.startingAt (.float 0) |>.described "Transmit channel."]
  parameters := "r: f64, g: f64, b: f64"
  body := "this.set_r(r)?;\nthis.set_g(g)?;\nthis.set_b(b)?;"

end SceneCatalog.Catalog
