import SceneCatalog.Proofs.Scene.Texts

/-
This file describes the blocks whose lines, comments and keywords keep a property of texts.
-/

namespace SceneCatalog

/-- Lines that have the property together, and blocks with words as keywords, whose comments and
bodies have it. -/
inductive Markup.Sound (holds : List Char → Prop) : List Markup → Prop where
  | nil : Sound holds []
  | lines {texts : List String} {rest : List Markup} (held : Passage holds texts)
      (others : Sound holds rest) : Sound holds (texts.map .line ++ rest)
  | block {comment : Option String} {keyword : String} {body rest : List Markup}
      (commentHeld : ∀ text, comment = some text → Phrase holds text)
      (word : Text.marks keyword.toList = []) (inner : Sound holds body)
      (others : Sound holds rest) : Sound holds (.block comment keyword body :: rest)

namespace Markup

/-- What stands between the braces of a block. -/
def inner (stops : Nat) (body : List Markup) : String :=
  match writeAll (stops + 1) body with
  | [] => " "
  | lines => "\n" ++ "\n".intercalate lines ++ "\n" ++ tab stops

/-- A block is its comment, its keyword and what stands between its braces. -/
theorem write_block (stops : Nat) (comment : Option String) (keyword : String)
    (body : List Markup) :
    write stops (.block comment keyword body) =
      commentLine (tab stops) comment ++ tab stops ++ keyword ++ " \x7b" ++ inner stops body ++
        "\x7d" := by
  have opened : " \x7b\n" = " \x7b" ++ "\n" := rfl
  have empty : " \x7b \x7d" = " \x7b" ++ " " ++ "\x7d" := rfl
  rw [write, inner]
  cases writeAll (stops + 1) body with
  | nil => simp only [empty, String.append_assoc]
  | cons first rest => simp only [opened, String.append_assoc]

/-- Four blanks for each stop. -/
theorem toList_tab (stops : Nat) : (tab stops).toList = List.replicate (4 * stops) ' ' := by
  rw [tab, Text.indent, String.toList_join]
  induction stops with
  | zero => rfl
  | succ stops inductionHypothesis =>
      rw [List.replicate_succ, List.flatMap_cons, inductionHypothesis]
      show List.replicate 4 ' ' ++ _ = _
      rw [← List.replicate_add, Nat.mul_succ, Nat.add_comm]

/-- Indentation has no marks. -/
theorem marks_tab (stops : Nat) : Text.marks (tab stops).toList = [] := by
  rw [toList_tab, Text.marks_eq_nil_iff]
  intro c member
  rw [List.eq_of_mem_replicate member]
  rfl

/-- Markups in a row are written one after the other. -/
theorem writeAll_append (stops : Nat) (first second : List Markup) :
    writeAll stops (first ++ second) = writeAll stops first ++ writeAll stops second := by
  induction first with
  | nil => rfl
  | cons markup rest inductionHypothesis =>
      rw [List.cons_append, writeAll, writeAll, inductionHypothesis, List.cons_append]

/-- Lines are written behind their indentation. -/
theorem writeAll_lines (stops : Nat) (texts : List String) :
    writeAll stops (texts.map .line) = texts.map (tab stops ++ ·) := by
  induction texts with
  | nil => rfl
  | cons text rest inductionHypothesis =>
      rw [List.map_cons, writeAll, write, inductionHypothesis, List.map_cons]

end Markup

namespace Markup.Sound

variable {holds : List Char → Prop} {first second : List Markup}

/-- Sound markups in a row are sound. -/
theorem append (firstSound : Sound holds first) (secondSound : Sound holds second) :
    Sound holds (first ++ second) := by
  induction firstSound with
  | nil => exact secondSound
  | lines held _ inductionHypothesis =>
      rw [List.append_assoc]
      exact .lines held inductionHypothesis
  | block commentHeld word inner _ _ inductionHypothesis =>
      exact .block commentHeld word inner inductionHypothesis

/-- Sound lists of markups are sound as one list. -/
theorem flatten {blocks : List (List Markup)} (sound : ∀ block ∈ blocks, Sound holds block) :
    Sound holds blocks.flatten := by
  induction blocks with
  | nil => exact .nil
  | cons first rest inductionHypothesis =>
      obtain ⟨firstSound, others⟩ := List.forall_mem_cons.1 sound
      exact firstSound.append (inductionHypothesis others)

/-- Lines that have the property together are sound. -/
theorem passage {texts : List String} (held : Passage holds texts) :
    Sound holds (texts.map .line) := by
  simpa using Sound.lines held .nil

/-- A line with the property is sound. -/
theorem line {text : String} (held : Phrase holds text) : Sound holds [.line text] :=
  passage (passage_single held)

end Markup.Sound

end SceneCatalog
