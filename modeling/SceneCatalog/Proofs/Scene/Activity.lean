import SceneCatalog.Proofs.Object.Overwriting
import SceneCatalog.Proofs.Scene.Assembly

/-
This file shows that a scene asks only its own objects whether they are active, and none of those
within them.
-/

namespace SceneCatalog

/-- No block shows the attribute, neither above it nor in its braces. -/
structure Layout.Hides (name : String) : Prop where
  notId : name ≠ "id"
  unread : ∀ entry ∈ Layout.ofObjects, name ∉ entry.2.reads entry.1

/-- No block shows `active`, which is checked over all layouts. -/
theorem Layout.hides_active : Layout.Hides "active" where
  notId := by decide
  unread := by
    have checked : (Layout.ofObjects.all fun entry =>
        !(entry.2.reads entry.1).contains "active") = true := by
      decide
    simpa using checked

namespace Object

variable {name : String} (hidden : Layout.Hides name) (cover : Slot)
include hidden

/-- Sweeps read of their spheres what the blocks of spheres show. -/
theorem rewriting_overwrite :
    Rewriting (Value.overwrite name cover) (Object.overwrite name cover) where
  single value noList noNode := by
    cases value with
    | list => contradiction
    | node => contradiction
    | _ => rfl
  list items := congrArg Value.list (Value.overwriteItems_eq name cover items)
  node _ _ := rfl
  className := className_overwrite name cover
  sphere other read object := by
    have shown : ["center", "radius"] ⊆ Layout.sphere.reads "Sphere" := by decide
    apply value_overwrite_other
    rintro rfl
    exact hidden.unread ("Sphere", Layout.sphere) (Layout.mem_of_ofClass rfl) (shown read)

/-- An attribute that no block shows makes no difference, wherever it stands. -/
theorem markupWithin_overwrite (depth : Nat) (object : Object) :
    object.markupWithin depth = (object.overwrite name cover).markupWithin depth := by
  induction depth generalizing object with
  | zero => rw [markupWithin, markupWithin, className_overwrite]
  | succ depth inductionHypothesis =>
      have mirrors (names : List String) (unread : name ∉ names) :
          object.Mirrors names (markupWithin depth) (markupWithin depth)
            (object.overwrite name cover) := by
        have rewriting := rewriting_overwrite hidden cover
        apply rewriting.objectMirrors
        · intro other member
          have different : other ≠ name := fun same => unread (same ▸ member)
          exact value_overwrite_other cover different object
        · exact fun _ _ _ _ => rewriting.mirrors fun child _ => inductionHypothesis child
      rw [markupWithin, markupWithin, className_overwrite]
      split
      · rename_i layout found
        have laid := Layout.mem_of_ofClass found
        rw [writeAs_eq, writeAs_eq,
          interior_congr (List.mem_cons_of_mem _ laid) (mirrors _ (hidden.unread _ laid)),
          (mirrors ["id"] (by simpa using hidden.notId)).textIfSet "id" (.head _)]
      · rfl

/-- Overwriting an attribute that no block shows leaves the text of the scene. -/
theorem sceneText_overwrite (object : Object) (stops : Nat) :
    object.sceneText stops = (object.overwrite name cover).sceneText stops := by
  -- Neither of the two objects is too deep for the larger depth.
  let deep := max object.depth (object.overwrite name cover).depth + 1
  have same : object.markup = (object.overwrite name cover).markup := by
    calc object.markup
      _ = object.markupWithin deep := markupWithin_congr (Nat.lt_succ_self _) (by omega)
      _ = (object.overwrite name cover).markupWithin deep :=
        markupWithin_overwrite hidden cover deep object
      _ = (object.overwrite name cover).markup := markupWithin_congr (by omega) (Nat.lt_succ_self _)
  rw [sceneText, sceneText, same]

omit hidden

/-- The object is active, and so is every object within. -/
def activated (object : Object) : Object := object.overwrite "active" (.literal (.bool true))

/-- An active object is active after everything in it has been activated. -/
theorem isActive_activated {object : Object} (active : object.isActive = true) :
    object.activated.isActive = true := by
  by_contra inactive
  have shown := isActive_eq_false_iff.1 (Bool.eq_false_iff.2 inactive)
  rcases value_overwrite_self "active" (.literal (.bool true)) object with same | covered
  · have alsoInactive := isActive_eq_false_iff.2 (same.symm.trans shown)
    rw [active] at alsoInactive
    contradiction
  · cases covered.symm.trans shown

end Object

namespace Scene

/-- The text of a scene leaves out its inactive objects, and shows everything within the others as
if it were active. -/
theorem write_activated (scene : Scene) :
    scene.write =
      { scene with
        objects := (scene.objects.filter Object.isActive).map Object.activated }.write := by
  have kept : ((scene.objects.filter Object.isActive).map Object.activated).filter
      Object.isActive = (scene.objects.filter Object.isActive).map Object.activated := by
    rw [List.filter_eq_self]
    intro object member
    obtain ⟨before, inScene, rfl⟩ := List.mem_map.1 member
    exact Object.isActive_activated (List.mem_filter.1 inScene).2
  have texts : (scene.objects.filter Object.isActive).map (·.sceneText 0) =
      ((scene.objects.filter Object.isActive).map Object.activated).map (·.sceneText 0) := by
    rw [List.map_map]
    apply List.map_congr_left
    exact fun object _ => Object.sceneText_overwrite Layout.hides_active _ object 0
  rw [write_eq, write_eq, parts, parts, kept, ← texts]
  rfl

/-- A sphere that is complete and takes no part in a scene. -/
def darkBall : Object :=
  Catalog.sphereClass.after Object.plainBall (.assign "active" (.literal (.bool false)))

/-- A scene with one merge of the components. -/
def merging (components : List Value) : Scene where
  includes := []
  settings := none
  objects := [Catalog.mergeClass.run Catalog.mergeClass.blank [
    .assign "components" (.literal (.list components))]]

/-- The text of the merge is another one without its inactive sphere. -/
theorem merging_darkBall :
    Object.plainBall.isActive = true ∧ darkBall.isActive = false ∧
      ∃ text without,
        (merging [.node 1 Object.plainBall, .node 2 darkBall]).write = .ok text ∧
        (merging [.node 1 Object.plainBall]).write = .ok without ∧ text ≠ without := by
  obtain ⟨text, written⟩ := exists_of_isOk (by decide :
    (merging [.node 1 Object.plainBall, .node 2 darkBall]).write.isOk = true)
  obtain ⟨without, alsoWritten⟩ := exists_of_isOk (by decide :
    (merging [.node 1 Object.plainBall]).write.isOk = true)
  have different : (merging [.node 1 Object.plainBall, .node 2 darkBall]).write.toOption ≠
      (merging [.node 1 Object.plainBall]).write.toOption := by
    decide
  refine ⟨rfl, rfl, text, without, written, alsoWritten, ?_⟩
  rintro rfl
  exact different (by rw [written, alsoWritten])

end Scene

end SceneCatalog
