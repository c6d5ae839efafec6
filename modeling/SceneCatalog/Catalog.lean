import SceneCatalog.Catalog.Constructive
import SceneCatalog.Catalog.GlobalSettings
import SceneCatalog.Catalog.ImageOptions
import SceneCatalog.Catalog.Implicit
import SceneCatalog.Catalog.Primitive
import SceneCatalog.Catalog.Solids
import SceneCatalog.Catalog.Surfaces
import SceneCatalog.Catalog.Swept
import SceneCatalog.Catalog.Vectors
import SceneCatalog.Catalog.Viewing
import SceneCatalog.Schema.Lineage

/-
This file lists the classes of scenes.
-/

namespace SceneCatalog

open Catalog

/-- A superclass stands in front of the classes that descend from it. -/
def catalog : Catalog := [
  globalSettings, imageOptions, primitive, bicubicPatch, blob, box, camera, cone, cubic, cylinder,
  difference, disc, heightField, intersection, isoSurface, juliaFractal, lathe, lightSource, merge,
  mesh, ovus, parametric, plane, poly, polygon, polynomial, prism, quadric, quartic, sphere,
  sphereSweep, superellipsoid, sor, text, torus, triangle, union, vectorXY, vectorUV, vectorXYZ,
  vectorXYZW, colorVector]

end SceneCatalog
