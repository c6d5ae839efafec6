import SceneCatalog.Proofs.Scene.Completeness
import SceneCatalog.Proofs.Text.Margins

/-
This file shows that the indentation of a block moves all of its lines by the same margin.
-/

namespace SceneCatalog

open Markup Text

namespace Markup

theorem tab_add (first second : Nat) :
    (tab (first + second)).toList = (tab first).toList ++ (tab second).toList := by
  rw [toList_tab, toList_tab, toList_tab, ← List.replicate_add, Nat.mul_add]

/-- The text with the margin in front of each of its lines. -/
def moved (margin : List Char) (text : String) : List Char :=
  margin ++ continued margin text.toList

/-- Texts below each other are moved one by one. -/
theorem moved_intercalate (margin : List Char) (first : String) (rest : List String) :
    moved margin ("\n".intercalate (first :: rest)) =
      ['\n'].intercalate ((first :: rest).map (moved margin)) := by
  induction rest generalizing first with
  | nil => simp [moved]
  | cons next rest inductionHypothesis =>
      have later := inductionHypothesis next
      rw [List.map_cons, List.map_cons, List.intercalate_cons_cons, ← List.map_cons, ← later]
      simp only [moved, String.intercalate_cons_cons, String.toList_append, continued_append,
        continued_newline]
      simp

/-- Texts without marks stand in one line. -/
theorem continued_of_unmarked (margin : List Char) {text : List Char} (free : marks text = []) :
    continued margin text = text :=
  continued_of_not_mem margin (blockwise_oneLine.unmarked free)

/-- An indentation has no lines that a margin would move. -/
theorem continued_tab (margin : List Char) (stops : Nat) :
    continued margin (tab stops).toList = (tab stops).toList :=
  continued_of_unmarked margin (marks_tab stops)

/-- A single line moves by its indentation. -/
theorem moved_line {text : String} (single : '\n' ∉ text.toList) (stops further : Nat) :
    (tab (stops + further) ++ text).toList = moved (tab stops).toList (tab further ++ text) := by
  rw [moved, String.toList_append, String.toList_append, continued_append, continued_tab,
    continued_of_not_mem _ single, tab_add, List.append_assoc]

/-- A comment ends its line, and so a margin follows it. -/
theorem moved_comment (stops further : Nat) {comment : Option String}
    (single : ∀ text, comment = some text → '\n' ∉ text.toList) :
    (commentLine (tab (stops + further)) comment).toList ++ (tab stops).toList =
      moved (tab stops).toList (commentLine (tab further) comment) := by
  cases comment with
  | none => simp [commentLine, moved, continued]
  | some text =>
      have textSingle := continued_of_not_mem (tab stops).toList (single text rfl)
      have slashes : continued (tab stops).toList "// ".toList = "// ".toList :=
        continued_of_unmarked _ rfl
      simp only [commentLine, moved, String.toList_append, continued_append, continued_tab, slashes,
        textSingle, continued_newline, tab_add]
      simp

/-- What stands between the braces of a block moves when its lines do. -/
theorem moved_inner (stops further : Nat) {body : List Markup}
    (inside : (writeAll (stops + further + 1) body).map String.toList =
      (writeAll (further + 1) body).map (moved (tab stops).toList)) :
    (inner (stops + further) body).toList =
      continued (tab stops).toList (inner further body).toList := by
  rw [inner, inner]
  cases before : writeAll (further + 1) body with
  | nil =>
      rw [before, List.map_nil, List.map_eq_nil_iff] at inside
      rw [inside]
      exact (continued_of_unmarked _ (rfl : marks " ".toList = [])).symm
  | cons first rest =>
      rw [before] at inside
      cases after : writeAll (stops + further + 1) body with
      | nil => simp [after] at inside
      | cons movedFirst movedRest =>
          rw [after] at inside
          have joined : ("\n".intercalate (movedFirst :: movedRest)).toList =
              moved (tab stops).toList ("\n".intercalate (first :: rest)) := by
            rw [moved_intercalate, ← inside, String.toList_intercalate]
            rfl
          simp only [String.toList_append, continued_append, continued_tab, joined, moved,
            continued_newline, tab_add]
          simp

/-- A block moves when the lines of its body do. -/
theorem moved_block (stops further : Nat) {comment : Option String}
    (commentSingle : ∀ text, comment = some text → '\n' ∉ text.toList) {keyword : String}
    (word : marks keyword.toList = []) {body : List Markup}
    (inside : (writeAll (stops + further + 1) body).map String.toList =
      (writeAll (further + 1) body).map (moved (tab stops).toList)) :
    (write (stops + further) (.block comment keyword body)).toList =
      moved (tab stops).toList (write further (.block comment keyword body)) := by
  have keywordSingle : continued (tab stops).toList keyword.toList = keyword.toList :=
    continued_of_unmarked _ word
  have opening : continued (tab stops).toList " \x7b".toList = " \x7b".toList :=
    continued_of_not_mem _ (by decide)
  have closing : continued (tab stops).toList "\x7d".toList = "\x7d".toList :=
    continued_of_not_mem _ (by decide)
  have comments := moved_comment stops further commentSingle
  rw [moved] at comments
  rw [moved, write_block, write_block]
  simp only [String.toList_append, continued_append, continued_tab, keywordSingle, opening, closing,
    moved_inner stops further inside, tab_add, ← List.append_assoc, comments]

/-- More stops move each text by their margin. -/
theorem Sound.writeAll_moved {markups : List Markup}
    (sound : Sound (fun text => '\n' ∉ text) markups) (stops further : Nat) :
    (writeAll (stops + further) markups).map String.toList =
      (writeAll further markups).map (moved (tab stops).toList) := by
  induction sound generalizing further with
  | nil => rfl
  | @lines texts rest held _ inductionHypothesis =>
      rw [writeAll_append, writeAll_append, writeAll_lines, writeAll_lines, List.map_append,
        List.map_append, inductionHypothesis, List.map_map, List.map_map]
      congr 1
      apply List.map_congr_left
      intro text member
      have single : '\n' ∉ text.toList := fun inside =>
        held (List.mem_flatMap.2 ⟨text, member, inside⟩)
      exact moved_line single stops further
  | block commentHeld word _ _ bodyHypothesis restHypothesis =>
      rw [writeAll, writeAll, List.map_cons, List.map_cons, restHypothesis,
        moved_block stops further commentHeld word (bodyHypothesis (further + 1))]

/-- A block of single lines moves as a whole. -/
theorem Sound.write_moved {block : Markup} (sound : Sound (fun text => '\n' ∉ text) [block])
    (stops : Nat) : block.write stops = withMargin (tab stops) (block.write 0) := by
  have moved := sound.writeAll_moved stops 0
  simp only [writeAll, List.map_cons, List.map_nil, List.cons.injEq, and_true] at moved
  rw [← String.toList_inj, toList_withMargin]
  exact moved

end Markup

namespace Object

/-- No string and no code of the object has a line end. -/
def Unbroken (object : Object) : Prop := ∀ content, object.Mentions content → '\n' ∉ content.toList

/-- An object without line ends gives every attribute a single line. -/
theorem Unbroken.voiced {object : Object} (made : object.Made) (unbroken : object.Unbroken) :
    object.Voiced fun text => '\n' ∉ text where
  strings := unbroken
  endings := by
    intro file names ending suffix inside
    exact unbroken file (made.mentions_file names) (suffix.subset inside)

/-- Whether an object has a text does not depend on its indentation, which stands in front of all
lines. The same holds of the settings of a scene. -/
theorem texts_shift (stops : Nat) :
    (∀ object : Object, object.Everywhere Built → object.Everywhere Unbroken →
      object.sceneText stops = (object.sceneText 0).map
        (withMargin (String.ofList (List.replicate (4 * stops) ' ')))) ∧
    ∀ settings : Object, settings.className = "GlobalSettings" → settings.Made →
      settings.Unbroken → settings.settingsText stops = (settings.settingsText 0).map
        (withMargin (String.ofList (List.replicate (4 * stops) ' '))) := by
  have margin : String.ofList (List.replicate (4 * stops) ' ') = tab stops := by
    rw [← toList_tab, String.ofList_toList]
  rw [margin]
  have shifted (result : Except SceneError Markup)
      (sound : ∀ block, result = .ok block → Sound (fun text => '\n' ∉ text) [block]) :
      result.map (·.write stops) = (result.map (·.write 0)).map (withMargin (tab stops)) := by
    cases result with
    | error error => rfl
    | ok block => exact congrArg Except.ok ((sound block rfl).write_moved stops)
  constructor
  · intro object built unbroken
    have voiced : object.Everywhere (Voiced fun text => '\n' ∉ text) :=
      (built.and unbroken).mono fun _ both => both.2.voiced both.1.toMade
    exact shifted _ fun block there =>
      (object.markup_delivers blockwise_oneLine built voiced).good_of_ok there
  · intro settings named made unbroken
    exact shifted _ fun block there =>
      settings_sound blockwise_oneLine.toFormal named made unbroken there

theorem ball_unbroken : ball.Unbroken := by
  intro content mentioned
  have single : ["<0, 1, 0>", "1", "ball", "texture \x7b T_Stone1 \x7d"].all
      (fun text => !text.toList.contains '\n') = true := by
    decide
  simpa using List.all_eq_true.1 single content (ball_mentions mentioned)

theorem merged_unbroken : merged.Everywhere Unbroken :=
  merged_everywhere (fun content mentioned => absurd mentioned (merged_mentions content))
    ball_unbroken

end Object

/-! Settings with an encoding and with radiosity. -/

def Catalog.settingsClass : Class := ⟨globalSettings, []⟩

theorem catalog_settings : catalog.class? "GlobalSettings" = some Catalog.settingsClass :=
  Catalog.class_of_top (by rfl) rfl

namespace Object

def settings : Object := Catalog.settingsClass.run Catalog.settingsClass.blank [
  .assign "charset" (.literal (.text "utf8")), .set "radiosity" (.literal (.bool true)),
  .set "radCount" (.raw "35")]

theorem settings_made : settings.Made :=
  .of_run _ catalog_settings rfl rfl (by decide)

theorem settings_stores {value : Value} :
    settings.Stores value ↔ value ∈ [.text "utf8", .code "35", .bool true] :=
  stores_iff

/-- The merge has a text, and moves by two indentations, as do the settings. -/
theorem texts_shift_merged :
    merged.Everywhere Built ∧ merged.Everywhere Unbroken ∧ settings.Made ∧ settings.Unbroken ∧
      (∃ text, merged.sceneText 0 = .ok text ∧
        merged.sceneText 2 = .ok (withMargin (String.ofList (List.replicate 8 ' ')) text)) ∧
      settings.settingsText 2 = (settings.settingsText 0).map
        (withMargin (String.ofList (List.replicate 8 ' '))) := by
  have unbroken : settings.Unbroken := by
    rintro content ⟨value, stored, mentioned⟩
    rw [settings_stores] at stored
    simp only [List.mem_cons, List.not_mem_nil, or_false] at stored
    rcases stored with rfl | rfl | rfl <;> rcases mentioned with within | within <;>
      cases within <;> decide
  obtain ⟨objects, ofSettings⟩ := texts_shift 2
  have moved := objects merged merged_built merged_unbroken
  obtain ⟨text, written⟩ := merged_text 0
  rw [written] at moved
  exact ⟨merged_built, merged_unbroken, settings_made, unbroken, ⟨text, written, moved⟩,
    ofSettings settings rfl settings_made unbroken⟩

end Object

end SceneCatalog
