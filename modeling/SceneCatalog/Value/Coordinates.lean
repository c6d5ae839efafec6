/-
This file holds the coordinate and colour tuples of scenes.
-/

namespace SceneCatalog

inductive VectorKind where
  | xy
  | uv
  | xyz
  | xyzw
  | color
  deriving Repr, DecidableEq

namespace VectorKind

def all : List VectorKind := [xy, uv, xyz, xyzw, color]

def className : VectorKind → String
  | xy => "VectorXY"
  | uv => "VectorUV"
  | xyz => "VectorXYZ"
  | xyzw => "VectorXYZW"
  | color => "Color"

def ofClassName? (name : String) : Option VectorKind := all.find? (·.className == name)

def componentNames : VectorKind → List String
  | xy => ["x", "y"]
  | uv => ["u", "v"]
  | xyz => ["x", "y", "z"]
  | xyzw => ["x", "y", "z", "w"]
  | color => ["r", "g", "b", "f", "t"]

def arity (kind : VectorKind) : Nat := kind.componentNames.length

/-- Colours may leave their filter and transmit channels out. -/
def leastArity : VectorKind → Nat
  | color => 3
  | kind => kind.arity

end VectorKind

/-- As many finite numbers as the kind has components. -/
structure Coordinates where
  kind : VectorKind
  components : List Float
  length_eq : components.length = kind.arity
  finite : ∀ component ∈ components, component.isFinite = true

namespace Coordinates

theorem zeroFinite : (0 : Float).isFinite = true := by decide

/-- Missing channels are zero. A number that is not finite, or a wrong count, gives nothing. -/
def ofNumbers? (kind : VectorKind) (numbers : List Float) : Option Coordinates :=
  if fits : kind.leastArity ≤ numbers.length ∧ numbers.length ≤ kind.arity ∧
      ∀ number ∈ numbers, number.isFinite = true then
    some {
      kind
      components := numbers ++ List.replicate (kind.arity - numbers.length) 0
      length_eq := by
        rw [List.length_append, List.length_replicate]
        exact Nat.add_sub_cancel' fits.2.1
      finite := by
        intro component member
        rcases List.mem_append.1 member with given | padding
        · exact fits.2.2 component given
        · rw [List.eq_of_mem_replicate padding]
          exact zeroFinite }
  else none

/-- The component of a name. -/
def get? (coordinates : Coordinates) (name : String) : Option Float :=
  ((coordinates.kind.componentNames.zip coordinates.components).find? (·.1 == name)).map (·.2)

/-- Components compare as numbers. -/
def same (first second : Coordinates) : Bool :=
  first.kind == second.kind && first.components == second.components

end Coordinates

end SceneCatalog
