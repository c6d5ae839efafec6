import SceneCatalog.Proofs.Object.Assignment
import SceneCatalog.Proofs.Scene.Balance
import SceneCatalog.Proofs.Scene.Dependence
import SceneCatalog.Proofs.Text.Splitting

/-
This file states what the identifier adds to the text of an object, and that only its first line is
sure to be a comment.
-/

namespace SceneCatalog

open Markup Text

/-- Blanks and two slashes make the rest of the line a comment. -/
def Text.IsComment (line : List Char) : Prop :=
  ∃ width rest, line = List.replicate width ' ' ++ '/' :: '/' :: rest

/-- The line of the identifier is a comment, and its further lines are what they are by
themselves. -/
theorem Markup.comment_lines (stops : Nat) (content : String) :
    (∀ line ∈ endedLines (commentLine (tab stops) (some content)).toList, IsComment line) ↔
      ∀ line ∈ (content.toList.splitOn '\n').tail, IsComment line := by
  have marked : (commentLine (tab stops) (some content)).toList =
      ((tab stops ++ "// ").toList ++ content.toList) ++ ['\n'] := by
    rw [commentLine, String.toList_append, String.toList_append]
    rfl
  have single : '\n' ∉ (tab stops ++ "// ").toList := by
    simp [toList_tab]
  obtain ⟨first, others, split⟩ :=
    List.exists_cons_of_ne_nil (List.splitOn_ne_nil '\n' content.toList)
  have comment : IsComment ((tab stops ++ "// ").toList ++ first) := by
    refine ⟨4 * stops, ' ' :: first, ?_⟩
    rw [String.toList_append, toList_tab, List.append_assoc]
    rfl
  rw [marked, endedLines_lineEnd, splitOn_append single, split, List.modifyHead_cons,
    List.forall_mem_cons, List.tail_cons, and_iff_right comment]

/-- A string is written verbatim as it is. -/
theorem Value.verbatim_of_asText {value : Value} {content : String}
    (isText : value.asText? = some content) (writer : NodeWriter) :
    value.verbatim writer = .ok content := by
  cases value with
  | text _ => exact congrArg Except.ok (Option.some.inj isText)
  | code _ => exact congrArg Except.ok (Option.some.inj isText)
  | _ => contradiction

namespace Object

/-- No block depends on the identifier below it. -/
theorem id_unread {className : String} {layout : Layout}
    (laid : (className, layout) ∈ Layout.ofBlocks) : "id" ∉ layout.reads className := by
  have checked : (Layout.ofBlocks.all fun entry =>
      !(entry.2.reads entry.1).contains "id") = true := by
    decide +kernel
  simpa using List.all_eq_true.1 checked _ laid

/-- The block below an identifier is the one that is written without it. -/
theorem sceneText_of_identifier {object next : Object} {layout : Layout}
    (found : Layout.ofClass? object.className = some layout)
    (sameClass : object.className = next.className)
    (others : ∀ name, name ≠ "id" → object.value? name = next.value? name)
    (bare : object.value? "id" = none) {value : Value} (shown : next.value? "id" = some value)
    {content : String} (isText : value.asText? = some content) (stops : Nat) :
    next.sceneText stops =
      (object.sceneText stops).map (commentLine (tab stops) (some content) ++ ·) := by
  have laid : (object.className, layout) ∈ Layout.ofBlocks :=
    List.mem_cons_of_mem _ (Layout.mem_of_ofClass found)
  have alike : object.Alike (layout.reads object.className) markup markup next :=
    ⟨sameClass, fun name member => others name fun same => id_unread laid (same ▸ member),
      fun _ _ _ _ _ _ => rfl⟩
  have identifier : textIfSet markup next "id" = .ok (some content) := by
    rw [textIfSet, shown]
    exact congrArg (Except.map some) (Value.verbatim_of_asText isText markup)
  have absent : textIfSet markup object "id" = .ok none := by rw [textIfSet, bare]
  rw [sceneText, sceneText, markup_eq found, markup_eq (sameClass ▸ found), writeAs_eq, writeAs_eq,
    ← interior_congr laid alike.mirrors, identifier, absent]
  cases object.interior layout markup with
  | error error => rfl
  | ok inside =>
      obtain ⟨keyword, entries⟩ := inside
      apply congrArg Except.ok
      dsimp only
      rw [write_block, write_block, commentLine, commentLine]
      simp only [String.append_assoc, String.empty_append]

end Object

/-- What has passed as an identifier is read as it is. -/
theorem Class.read_identifier {className : String} {cls : Class}
    (known : catalog.class? className = some cls) (scene : (Layout.ofClass? className).isSome)
    {slot stored : Slot} (accepted : cls.accept "id" slot = .ok stored) :
    stored.read = slot.read := by
  obtain ⟨layout, found⟩ := Option.isSome_iff_exists.1 scene
  have isString := Layout.all_of_class
    (fun _ cls => ((cls.rule? "id").bind Attribute.validator).any Validator.isNonEmptyString)
    identifiers_are_strings (Layout.mem_of_ofClass found) known
  obtain ⟨table, rule, declared, taken⟩ := accept_ok_declared accepted
  rw [← declaration_eq] at declared
  rw [rule?, declared, Option.bind_some] at isString
  obtain ⟨validator, validated, isString⟩ := (Option.any_eq_true _ _).1 isString
  cases Attribute.takes_of_accept validated taken with
  | unset => rfl
  | raw code => rfl
  | deferred value => rfl
  | literal applies kept =>
      obtain rfl := Option.some.inj (validated.symm.trans applies)
      cases validator with
      | check condition =>
          rw [Validator.apply] at kept
          split at kept
          · rw [Except.ok.inj kept]
          · contradiction
      | _ => contradiction

/-- An identifier adds its comment to the text of an object of a scene, whatever the text is. All
lines of the comment are comments if and only if those of the identifier are, except for its
first. -/
theorem Class.assign_identifier {className : String} {cls : Class}
    (known : catalog.class? className = some cls) (scene : (Layout.ofClass? className).isSome)
    {object next : Object} (reached : cls.Reachable object) (bare : object.value? "id" = none)
    {slot : Slot} {content : String} (texted : slot.read.bind Value.asText? = some content)
    (assigned : cls.assign object "id" slot = .ok next) (stops : Nat) :
    next.sceneText stops =
        (object.sceneText stops).map (commentLine (tab stops) (some content) ++ ·) ∧
      ((∀ line ∈ endedLines (commentLine (tab stops) (some content)).toList, IsComment line) ↔
        ∀ line ∈ (content.toList.splitOn '\n').tail, IsComment line) := by
  refine ⟨?_, comment_lines stops content⟩
  have named : cls.name = className := (Catalog.class_known known).1
  have objectNamed : object.className = className := (className_of_fits reached.fits).trans named
  have nextNamed : next.className = className :=
    (className_of_fits (Level.Fits.invariant.assign reached.fits assigned)).trans named
  obtain ⟨layout, found⟩ := Option.isSome_iff_exists.1 scene
  obtain ⟨⟨stored, accepted, read⟩, others⟩ := get_assign reached.fits assigned
  obtain ⟨value, shown, isText⟩ := Option.bind_eq_some_iff.1 texted
  have valueShown : next.value? "id" = some value := by
    rw [Object.value?, read]
    exact (read_identifier known scene accepted).trans shown
  exact Object.sceneText_of_identifier (objectNamed ▸ found) (objectNamed.trans nextNamed.symm)
    (fun name different => Object.value_of_get (others name different).symm) bare valueShown isText
    stops

namespace Object

/-- A sphere without an identifier. -/
def plainBall : Object := Catalog.sphereClass.run Catalog.sphereClass.blank [
  .set "center" (.raw "0"), .set "radius" (.raw "1")]

theorem plainBall_reached : Catalog.sphereClass.Reachable plainBall :=
  ⟨_, _, .options SortedMap.empty rfl rfl, rfl⟩

/-- One word stands in the line above the sphere. -/
theorem plainBall_named :
    catalog.class? "Sphere" = some Catalog.sphereClass ∧ (Layout.ofClass? "Sphere").isSome ∧
      Catalog.sphereClass.Reachable plainBall ∧ plainBall.value? "id" = none ∧
      ∃ next, Catalog.sphereClass.assign plainBall "id" (.literal (.text "ball")) = .ok next ∧
        next.sceneText 1 =
          (plainBall.sceneText 1).map (commentLine (tab 1) (some "ball") ++ ·) ∧
        ∀ line ∈ endedLines (commentLine (tab 1) (some "ball")).toList, IsComment line := by
  refine ⟨catalog_sphere, rfl, plainBall_reached, rfl, _, rfl, ?_⟩
  obtain ⟨text, comment⟩ := Class.assign_identifier catalog_sphere rfl plainBall_reached rfl
    (rfl : (Slot.literal (.text "ball")).read.bind Value.asText? = some "ball") rfl 1
  exact ⟨text, comment.2 (List.forall_mem_nil _)⟩

def brokenBall : Object := plainBall.put "id" (.literal (.text "a\nb"))

/-- The second line of an identifier is none of the comment. -/
theorem brokenBall_unmasked :
    Catalog.sphereClass.assign plainBall "id" (.literal (.text "a\nb")) = .ok brokenBall ∧
      ∃ text, plainBall.sceneText 0 = .ok text ∧
        brokenBall.sceneText 0 = .ok ("// a\nb\n" ++ text) ∧
        ¬∃ comment, brokenBall.sceneText 0 = .ok (comment ++ text) ∧
          ∀ line ∈ endedLines comment.toList, IsComment line := by
  obtain ⟨text, written⟩ := exists_sceneText (by decide +kernel : plainBall.markup.isOk = true) 0
  have others : ∀ name, name ≠ "id" → plainBall.value? name = brokenBall.value? name :=
    fun name different => value_of_get (plainBall.get_put_other different _).symm
  have isText : (Value.text "a\nb").asText? = some "a\nb" := rfl
  have comment : commentLine (tab 0) (some "a\nb") = "// a\nb\n" := by decide +kernel
  have sphere : Layout.ofClass? plainBall.className = some Layout.sphere := rfl
  have sameClass : plainBall.className = brokenBall.className := rfl
  have shown := sceneText_of_identifier sphere sameClass others rfl rfl isText 0
  rw [written, comment] at shown
  refine ⟨rfl, text, written, shown, ?_⟩
  rintro ⟨comment, same, comments⟩
  obtain rfl : "// a\nb\n" = comment := by
    have joined := congrArg String.toList (Except.ok.inj (shown.symm.trans same))
    rw [String.toList_append, String.toList_append, List.append_left_inj] at joined
    exact String.toList_inj.1 joined
  obtain ⟨width, rest, same⟩ := comments ['b'] (by decide +kernel)
  cases width with
  | zero => cases same
  | succ width => cases same

end Object

end SceneCatalog
