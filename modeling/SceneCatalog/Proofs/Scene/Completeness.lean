import SceneCatalog.Proofs.Scene.Rendering

/-
This file states that complete objects are the ones that have a text, and which attribute is
reported to be missing from the others.
-/

namespace SceneCatalog

open Markup

/-- With no property asked for, every object is voiced. -/
theorem Object.Voiced.any (object : Object) : object.Voiced fun _ => True where
  strings _ _ := trivial
  endings _ _ _ _ := trivial

/-- The first attribute that the class requires and the object has no value for is reported before
all else. -/
theorem Object.markup_missing {object : Object} (node : object.isNode = true) {table : ClassTable}
    (found : catalog.find? object.className = some table) {before after : List Attribute}
    {rule : Attribute} (order : table.required = before ++ rule :: after)
    (set : ∀ earlier ∈ before, (object.value? earlier.name).isSome)
    (unset : object.value? rule.name = none) :
    object.markup = .error (.missingRequired object.className rule.name) := by
  obtain ⟨layout, laid⟩ := Option.isSome_iff_exists.1 node
  have first : table.missingRequired? object = some rule.name := by
    rw [ClassTable.missingRequired?, order, List.find?_append]
    have skipped : before.find? (fun rule => (object.value? rule.name).isNone) = none := by
      simpa [Option.isSome_iff_ne_none] using set
    rw [skipped, List.find?_cons_of_pos (by simp [unset])]
    rfl
  have named : table.name = object.className := (Catalog.find_mem found).2
  rw [markup, markupWithin, laid]
  dsimp only
  rw [writeAs, requireOwn, found]
  dsimp only
  rw [ClassTable.require, first, named]
  rfl

/-! A sphere with an identifier, a merge that holds it, and what calls have made of both. -/

def Catalog.sphereClass : Class := ⟨sphere, [primitive]⟩

def Catalog.mergeClass : Class := ⟨merge, [primitive]⟩

theorem catalog_sphere : catalog.class? "Sphere" = some Catalog.sphereClass :=
  Catalog.class_of_primitive (by rfl) rfl (by decide)

theorem catalog_merge : catalog.class? "Merge" = some Catalog.mergeClass :=
  Catalog.class_of_primitive (by rfl) rfl (by decide)

def Object.ball : Object := Catalog.sphereClass.run Catalog.sphereClass.blank [
  .assign "id" (.literal (.text "ball")), .set "center" (.raw "<0, 1, 0>"),
  .set "radius" (.raw "1"), .base (.set "texture" (.raw "texture \x7b T_Stone1 \x7d"))]

def Object.merged : Object := Catalog.mergeClass.run Catalog.mergeClass.blank [
  .set "components" (.literal (.list [.node 1 ball]))]

theorem Object.ball_stores {value : Value} : ball.Stores value ↔
    value ∈ [.code "<0, 1, 0>", .code "1", .bool true, .text "ball",
      .code "texture \x7b T_Stone1 \x7d"] :=
  stores_iff

theorem Object.merged_stores {value : Value} :
    merged.Stores value ↔ value ∈ [.list [.node 1 ball], .bool true] :=
  stores_iff

/-- Whether a slot is left to be computed can be looked up. -/
theorem Object.Made.of_run {cls : Class} (calls : List Call)
    (known : catalog.class? cls.name = some cls) (standard : cls.own.takesOptions = true)
    (named : (cls.run cls.blank calls).className = cls.name)
    (computed : (cls.run cls.blank calls).slots.all (fun slot => !slot.isDeferred) = true) :
    (cls.run cls.blank calls).Made where
  known := ⟨cls, named ▸ known, cls.blank, calls, .options SortedMap.empty standard rfl, rfl⟩
  computed := by simpa using computed

theorem Object.ball_mentions {content : String} (mentioned : ball.Mentions content) :
    content ∈ ["<0, 1, 0>", "1", "ball", "texture \x7b T_Stone1 \x7d"] := by
  obtain ⟨value, stored, within⟩ := mentioned
  rw [ball_stores] at stored
  simp only [List.mem_cons, List.not_mem_nil, or_false] at stored
  rcases stored with rfl | rfl | rfl | rfl | rfl <;> rcases within with within | within <;>
    cases within <;> decide

theorem Object.merged_mentions (content : String) : ¬merged.Mentions content := by
  rintro ⟨value, stored, within⟩
  rw [merged_stores] at stored
  simp only [List.mem_cons, List.not_mem_nil, or_false] at stored
  rcases stored with rfl | rfl
  · obtain ⟨item, member, inside⟩ := Value.mentions_list_iff.1 within
    obtain rfl := List.mem_singleton.1 member
    exact Value.not_mentions_node _ _ content inside
  · rcases within with within | within <;> cases within

theorem Object.merged_holds {child : Object} (held : merged.Holds child) : child = ball := by
  obtain ⟨value, stored, inside⟩ := held
  rw [merged_stores] at stored
  simp only [List.mem_cons, List.not_mem_nil, or_false] at stored
  rcases stored with rfl | rfl
  · obtain ⟨item, member, within⟩ := Value.holds_list_iff.1 inside
    obtain rfl := List.mem_singleton.1 member
    exact Value.holds_node_iff.1 within
  · obtain ⟨identity, within⟩ := inside
    cases within

/-- What holds of the merge and of the ball holds everywhere in the merge. -/
theorem Object.merged_everywhere {property : Object → Prop} (outside : property merged)
    (inside : property ball) : merged.Everywhere property := by
  refine .intro outside fun child held => ?_
  rw [merged_holds held]
  refine .intro inside ?_
  rintro child ⟨value, stored, identity, within⟩
  rw [ball_stores] at stored
  simp only [List.mem_cons, List.not_mem_nil, or_false] at stored
  rcases stored with rfl | rfl | rfl | rfl | rfl <;> cases within

theorem Object.merged_built : merged.Everywhere Built :=
  merged_everywhere ⟨.of_run _ catalog_merge rfl rfl (by decide), rfl⟩
    ⟨.of_run _ catalog_sphere rfl rfl (by decide), rfl⟩

/-- The indentation does not matter for whether there is a text. -/
theorem Object.exists_sceneText {object : Object} (written : object.markup.isOk = true)
    (stops : Nat) : ∃ text, object.sceneText stops = .ok text := by
  obtain ⟨block, there⟩ := exists_of_isOk written
  rw [sceneText, there]
  exact ⟨_, rfl⟩

theorem Object.merged_text (stops : Nat) : ∃ text, merged.sceneText stops = .ok text :=
  exists_sceneText (by decide) stops

/-- An object without deferred slots has a text exactly if it is complete. If it has none, an
attribute is missing, and this is the first one that its own class requires if one of those is. -/
theorem Object.sceneText_ok_iff_complete {object : Object} (built : object.Everywhere Built)
    (stops : Nat) :
    ((∃ text, object.sceneText stops = .ok text) ↔ object.Complete) ∧
      (∀ error, object.sceneText stops = .error error →
        ∃ className name, error = .missingRequired className name) ∧
      ∀ table before rule after, catalog.find? object.className = some table →
        table.required = before ++ rule :: after →
        (∀ earlier ∈ before, (object.value? earlier.name).isSome) →
        object.value? rule.name = none →
        object.sceneText stops = .error (.missingRequired object.className rule.name) := by
  have delivered : Delivers object.Complete (fun _ => True) (object.sceneText stops) := by
    have voiced := built.mono fun object _ => Voiced.any object
    exact (object.markup_delivers Text.blockwise_any built voiced).map fun _ _ => trivial
  refine ⟨delivered.ok_iff, fun error failed => delivered.error failed, ?_⟩
  intro table before rule after found order set unset
  rw [sceneText, markup_missing built.here.isNode found order set unset]
  rfl

/-- The merge has a text and is complete, and a new camera lacks its type. -/
theorem Object.sceneText_ok_iff_complete_merged :
    merged.Everywhere Built ∧ merged.Complete ∧
      Catalog.cameraClass.blank.Everywhere Built ∧
      Catalog.cameraClass.blank.sceneText 0 = .error (.missingRequired "Camera" "type") := by
  have built : Catalog.cameraClass.blank.Everywhere Built := by
    refine .intro ⟨.of_run [] catalog_camera rfl rfl (by decide +kernel), rfl⟩ ?_
    rintro child ⟨value, stored, identity, within⟩
    obtain rfl := List.mem_singleton.1 (stores_iff.1 stored)
    cases within
  obtain ⟨texts, _, _⟩ := sceneText_ok_iff_complete merged_built 1
  obtain ⟨_, _, missing⟩ := sceneText_ok_iff_complete built 0
  refine ⟨merged_built, texts.1 (merged_text 1), built, ?_⟩
  exact missing Catalog.camera [] _ [] (Catalog.find_of_class catalog_camera) rfl
    (List.forall_mem_nil _) rfl

end SceneCatalog
