import SceneCatalog.Scene.Scene
import SceneCatalog.Proofs.Scene.Identifier

/-
This file says which parts make up the text of a scene, and which of them decides its error.
-/

namespace SceneCatalog

/-- The separator stands before every text but the first. -/
theorem intercalate_cons_eq_join (separator first : String) (rest : List String) :
    separator.intercalate (first :: rest) =
      first ++ String.join (rest.map (separator ++ ·)) := by
  induction rest generalizing first with
  | nil => simp
  | cons second rest inductionHypothesis =>
      rw [String.intercalate_cons_cons, inductionHypothesis, List.map_cons, String.join_cons,
        String.append_assoc, String.append_assoc]

/-- Only an object that holds the literal itself is inactive. -/
theorem Object.isActive_eq_false_iff {object : Object} :
    object.isActive = false ↔ object.value? "active" = some (.bool false) := by
  rw [isActive, bne_eq_false_iff_eq, flag?, Option.bind_eq_some_iff]
  constructor
  · rintro ⟨value, held, isFlag⟩
    cases value with
    | bool flag => rw [held, Option.some.inj isFlag]
    | _ => contradiction
  · intro held
    exact ⟨_, held, rfl⟩

namespace Scene

/-- The settings come first, then the active objects in their order. -/
def parts (scene : Scene) : List (Except SceneError String) :=
  scene.settings.toList.map (·.settingsText 0) ++
    (scene.objects.filter Object.isActive).map (·.sceneText 0)

/-- A blank line separates the texts from one another and from what stands at the top. -/
def framed (scene : Scene) (texts : List String) : String :=
  version ++ String.join ((includeSection scene.includes ++ texts).map ("\n\n" ++ ·)) ++ "\n"

/-- The section of the settings has one text or none. -/
theorem settingsSection_eq (settings : Option Object) :
    settingsSection settings = (settings.toList.map (·.settingsText 0)).mapM id := by
  cases settings with
  | none => rfl
  | some settings =>
      show (settings.settingsText 0).map _ = _
      cases written : settings.settingsText 0 <;> simp [written] <;> rfl

/-- A scene is written part by part. -/
theorem write_eq (scene : Scene) : scene.write = (scene.parts.mapM id).map scene.framed := by
  have objects : objectSections scene.objects =
      ((scene.objects.filter Object.isActive).map (·.sceneText 0)).mapM id := by
    rw [List.mapM_map]
    rfl
  rw [write, settingsSection_eq, objects, parts, List.mapM_append]
  cases (scene.settings.toList.map (·.settingsText 0)).mapM id with
  | error error => rfl
  | ok settings =>
      cases ((scene.objects.filter Object.isActive).map (·.sceneText 0)).mapM id with
      | error error => rfl
      | ok objects =>
          refine congrArg Except.ok ?_
          show "\n\n".intercalate (version :: (_ ++ settings ++ objects)) ++ "\n" = _
          rw [intercalate_cons_eq_join, List.append_assoc]
          rfl

/-- Objects that are left out do not matter, wherever they stand. -/
theorem write_without {scene : Scene} {before after : List Object} {hidden : Object}
    (order : scene.objects = before ++ hidden :: after) (inactive : hidden.isActive = false) :
    scene.write = { scene with objects := before ++ after }.write := by
  have left : scene.objects.filter Object.isActive = (before ++ after).filter Object.isActive := by
    rw [order, List.filter_append, List.filter_cons_of_neg (by simp [inactive]),
      List.filter_append]
  rw [write_eq, write_eq, parts, parts, left]
  rfl

/-- A scene has a text exactly if all its parts have one, and its text is made of theirs. The first
part without a text decides the error, and inactive objects decide nothing. -/
theorem write_outcome (scene : Scene) :
    ((∃ text, scene.write = .ok text) ↔ ∀ part ∈ scene.parts, ∃ text, part = .ok text) ∧
      (∀ texts, List.Forall₂ (fun part text => part = .ok text) scene.parts texts →
        scene.write = .ok (scene.framed texts)) ∧
      (∀ error, scene.write = .error error ↔
        ∃ before after, scene.parts = before ++ .error error :: after ∧
          ∀ earlier ∈ before, ∃ text, earlier = .ok text) ∧
      ∀ before hidden after, scene.objects = before ++ hidden :: after →
        hidden.isActive = false →
        scene.write = { scene with objects := before ++ after }.write := by
  have written (outcome : Except SceneError (List String)) :
      ((∃ text, outcome.map scene.framed = .ok text) ↔ ∃ texts, outcome = .ok texts) ∧
        ∀ error, outcome.map scene.framed = .error error ↔ outcome = .error error := by
    cases outcome <;> simp [Except.map]
  obtain ⟨whole, failed⟩ := written (scene.parts.mapM id)
  refine ⟨?_, ?_, ?_, fun before hidden after => write_without⟩
  · rw [write_eq, whole]
    exact mapM_isOk_iff
  · intro texts each
    have there : scene.parts.mapM id = .ok texts := mapM_ok_iff.2 each
    rw [write_eq, there]
    rfl
  · intro error
    rw [write_eq, failed, mapM_error_iff]
    constructor
    · rintro ⟨before, part, after, order, earlier, rfl⟩
      exact ⟨before, after, order, earlier⟩
    · rintro ⟨before, after, order, earlier⟩
      exact ⟨before, _, after, order, earlier, rfl⟩

/-- A sphere without centre and radius that takes no part in a scene. -/
def hiddenBall : Object := Catalog.sphereClass.run Catalog.sphereClass.blank [
  .base (.assign "active" (.literal (.bool false)))]

def ballScene : Scene := ⟨["colors.inc"], none, [hiddenBall, Object.plainBall]⟩

/-- The hidden sphere has no text, and the scene has one nevertheless. -/
theorem write_outcome_ballScene :
    hiddenBall.sceneText 0 = .error (.missingRequired "Sphere" "center") ∧
      ballScene.write = { ballScene with objects := [Object.plainBall] }.write ∧
      ∃ text, Object.plainBall.sceneText 0 = .ok text ∧
        ballScene.write =
          .ok (version ++ ("\n\n" ++ "#include \"colors.inc\"") ++ ("\n\n" ++ text) ++ "\n") := by
  have hidden : hiddenBall.isActive = false := Object.isActive_eq_false_iff.2 rfl
  have shown : Object.plainBall.isActive = true := rfl
  obtain ⟨_, texts, _, without⟩ := write_outcome ballScene
  obtain ⟨text, written⟩ :=
    Object.exists_sceneText (by decide +kernel : Object.plainBall.markup.isOk = true) 0
  refine ⟨rfl, without [] hiddenBall [Object.plainBall] rfl hidden, text, written, ?_⟩
  have parts : ballScene.parts = [.ok text] := by
    simp [Scene.parts, ballScene, hidden, shown, written]
  rw [texts [text] (parts ▸ .cons rfl .nil), framed, ballScene]
  have included : includeSection ["colors.inc"] = ["#include \"colors.inc\""] := by
    decide +kernel
  rw [included]
  simp only [List.cons_append, List.nil_append, List.map_cons, List.map_nil, String.join_cons,
    String.join_nil, String.append_empty, String.append_assoc]

end Scene

end SceneCatalog
