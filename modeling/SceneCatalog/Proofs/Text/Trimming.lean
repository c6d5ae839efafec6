import SceneCatalog.Proofs.Text.Margins
import SceneCatalog.Proofs.Text.Splitting
import SceneCatalog.Text.Blank

/-
This file puts lines together and takes texts apart into lines, and says what is left of them when
the blanks at their ends are cut off.
-/

namespace SceneCatalog.Text

/-- Margins are made of what is cut off and ends no line. -/
def IsMargin (text : List Char) : Prop := ∀ c ∈ text, c = ' ' ∨ c = '\t'

section Margin

variable {margin : List Char} (blanks : IsMargin margin)
include blanks

theorem IsMargin.not_mem : '\n' ∉ margin := by
  intro member
  rcases blanks _ member with same | same <;> contradiction

theorem IsMargin.isBlank : ∀ c ∈ margin, isBlank c = true := by
  intro c member
  rcases blanks c member with rfl | rfl <;> rfl

/-- Trimming in front takes a margin away. -/
theorem trimStart_margin (text : List Char) : trimStart (margin ++ text) = trimStart text :=
  List.dropWhile_append_of_pos blanks.isBlank

end Margin

/-- A text begins with what is left of it after trimming at its end. -/
theorem trimEnd_begins (text : List Char) : trimEnd text <+: text := by
  rw [← List.reverse_suffix, trimEnd, List.reverse_reverse]
  exact List.dropWhile_suffix isBlank

theorem mem_of_mem_trimEnd {c : Char} {text : List Char} (member : c ∈ trimEnd text) : c ∈ text :=
  (trimEnd_begins text).subset member

/-- A first character is trimmed away only if it is blank and nothing is left behind it. -/
theorem trimEnd_cons (c : Char) (text : List Char) :
    trimEnd (c :: text) =
      if (trimEnd text).isEmpty ∧ isBlank c = true then [] else c :: trimEnd text := by
  rw [trimEnd, List.reverse_cons, List.dropWhile_append, trimEnd, List.isEmpty_reverse]
  split
  · rename_i empty
    rw [List.isEmpty_iff] at empty
    by_cases blank : isBlank c = true <;> simp [empty, blank]
  · rename_i filled
    rw [if_neg fun both => filled both.1]
    simp

/-- A margin in front of a line is cut off, also if nothing else stands in the line. -/
theorem trimStart_trimEnd_margin {margin : List Char} (blanks : IsMargin margin)
    (text : List Char) : trimStart (trimEnd (margin ++ text)) = trimStart (trimEnd text) := by
  induction margin with
  | nil => rfl
  | cons c rest inductionHypothesis =>
      obtain ⟨here, later⟩ := List.forall_mem_cons.1 blanks.isBlank
      have others : IsMargin rest := (List.forall_mem_cons.1 blanks).2
      rw [List.cons_append, trimEnd_cons, ← inductionHypothesis others]
      split
      · rename_i empty
        rw [List.isEmpty_iff.1 empty.1]
      · rw [trimStart, List.dropWhile_cons_of_pos here, trimStart]

/-- Trimming at the end takes a carriage return away. -/
theorem trimEnd_stripReturn (line : List Char) : trimEnd (stripReturn line) = trimEnd line := by
  rw [stripReturn]
  split
  · rename_i rest ends
    rw [trimEnd, trimEnd, ends, List.reverse_reverse, List.dropWhile_cons_of_pos rfl]
  · rfl

/-- Splitting agrees with that of the library. -/
theorem splitAt_eq_splitOn (separator : Char) (text : List Char) :
    splitAt separator text = text.splitOn separator := by
  induction text with
  | nil => rfl
  | cons c rest inductionHypothesis =>
      obtain ⟨piece, pieces, split⟩ :=
        List.exists_cons_of_ne_nil (List.splitOn_ne_nil separator rest)
      rw [splitAt, inductionHypothesis, List.splitOn_cons_eq_if_modifyHead, split]
      rfl

/-- The ends of lines are trimmed of all that makes one line end differ from another. -/
theorem map_trimEnd_closeLines {pieces : List (List Char)} (filled : pieces.getLast? ≠ some []) :
    (closeLines pieces).map trimEnd = pieces.map trimEnd := by
  induction pieces with
  | nil => rfl
  | cons piece rest inductionHypothesis =>
      cases rest with
      | nil =>
          have full : piece.isEmpty = false := by
            rw [List.getLast?_singleton] at filled
            simpa using filled
          rw [closeLines, full, if_neg Bool.false_ne_true]
      | cons next rest =>
          rw [closeLines, List.map_cons, List.map_cons, trimEnd_stripReturn,
            inductionHypothesis (by rwa [List.getLast?_cons_cons] at filled)]
          exact List.cons_ne_nil _ _

theorem mem_of_mem_stripReturn {c : Char} {line : List Char} (member : c ∈ stripReturn line) :
    c ∈ line := by
  rw [stripReturn] at member
  split at member
  · rename_i rest ends
    have inside : c ∈ line.reverse := ends ▸ .tail _ (List.mem_reverse.1 member)
    exact List.mem_reverse.1 inside
  · exact member

/-- A line has nothing that the piece it is made of does not have. -/
theorem exists_piece_of_mem_closeLines {pieces : List (List Char)} :
    ∀ line ∈ closeLines pieces, ∃ piece ∈ pieces, ∀ c ∈ line, c ∈ piece := by
  induction pieces with
  | nil => exact List.forall_mem_nil _
  | cons piece rest inductionHypothesis =>
      cases rest with
      | nil =>
          rw [closeLines]
          split
          · exact List.forall_mem_nil _
          · exact List.forall_mem_singleton.2 ⟨piece, .head _, fun _ member => member⟩
      | cons next rest =>
          rw [closeLines]
          · refine List.forall_mem_cons.2
              ⟨⟨piece, .head _, fun _ => mem_of_mem_stripReturn⟩, fun line member => ?_⟩
            obtain ⟨other, there, inside⟩ := inductionHypothesis line member
            exact ⟨other, .tail _ there, inside⟩
          · exact List.cons_ne_nil _ _

/-- The lines of a text have no line ends. -/
theorem not_mem_of_mem_lines {text line : String} (member : line ∈ lines text) :
    '\n' ∉ line.toList := by
  obtain ⟨letters, closed, rfl⟩ := List.mem_map.1 member
  obtain ⟨piece, split, inside⟩ := exists_piece_of_mem_closeLines letters closed
  rw [splitAt_eq_splitOn] at split
  rw [String.toList_ofList]
  exact fun lineFeed => not_mem_of_mem_splitOn split (inside _ lineFeed)

/-- The text ends within a line. -/
def Unfinished (text : List Char) : Prop := ∃ c, text.getLast? = some c ∧ c ≠ '\n'

/-- There is something in the last line of a text that ends within it. -/
theorem Unfinished.getLast_splitOn {text : List Char} (unfinished : Unfinished text) :
    (text.splitOn '\n').getLast? ≠ some [] := by
  obtain ⟨c, ends, solid⟩ := unfinished
  induction text with
  | nil => contradiction
  | cons first rest inductionHypothesis =>
      obtain ⟨piece, pieces, split⟩ := List.exists_cons_of_ne_nil (List.splitOn_ne_nil '\n' rest)
      rw [List.splitOn_cons_eq_if_modifyHead, split]
      cases rest with
      | nil =>
          obtain rfl : first = c := Option.some.inj ends
          obtain ⟨rfl, rfl⟩ := List.cons.inj split
          simp [solid]
      | cons next rest =>
          rw [List.getLast?_cons_cons] at ends
          have later := split ▸ inductionHypothesis ends
          split
          · rwa [List.getLast?_cons_cons]
          · cases pieces with
            | nil => simp
            | cons other pieces =>
                rw [List.getLast?_cons_cons] at later
                rwa [List.modifyHead_cons, List.getLast?_cons_cons]

/-- What stands in front does not finish a text. -/
theorem Unfinished.append {text : List Char} (unfinished : Unfinished text) (start : List Char) :
    Unfinished (start ++ text) := by
  obtain ⟨c, ends, solid⟩ := unfinished
  exact ⟨c, by rw [List.getLast?_append, ends, Option.some_or], solid⟩

/-- Unfinished texts are unfinished when they are joined. -/
theorem Unfinished.intercalate {texts : List String} (filled : texts ≠ [])
    (unfinished : ∀ text ∈ texts, Unfinished text.toList) (separator : String) :
    Unfinished (separator.intercalate texts).toList := by
  rw [String.toList_intercalate]
  induction texts with
  | nil => contradiction
  | cons text rest inductionHypothesis =>
      obtain ⟨here, later⟩ := List.forall_mem_cons.1 unfinished
      cases rest with
      | nil => simpa using here
      | cons next rest =>
          rw [List.map_cons, List.map_cons, List.intercalate_cons_cons]
          exact (inductionHypothesis (List.cons_ne_nil _ _) later).append _

/-- Texts that are put together with line feeds are split one by one. -/
theorem splitOn_intercalate {texts : List String} (filled : texts ≠ []) :
    ("\n".intercalate texts).toList.splitOn '\n' =
      texts.flatMap fun text => text.toList.splitOn '\n' := by
  have separator : "\n".toList = ['\n'] := rfl
  rw [String.toList_intercalate, separator]
  induction texts with
  | nil => contradiction
  | cons text rest inductionHypothesis =>
      cases rest with
      | nil => simp
      | cons next rest =>
          have later := inductionHypothesis (List.cons_ne_nil _ _)
          rw [List.map_cons] at later
          rw [List.map_cons, List.map_cons, List.intercalate_cons_cons, List.append_assoc,
            List.singleton_append, List.splitOn_append_cons_self, later]
          rfl

/-- Lines that are put together are the lines of the text. -/
theorem splitOn_intercalate_single {texts : List String} (filled : texts ≠ [])
    (single : ∀ text ∈ texts, '\n' ∉ text.toList) :
    ("\n".intercalate texts).toList.splitOn '\n' = texts.map String.toList := by
  have separator : "\n".toList = ['\n'] := rfl
  rw [String.toList_intercalate, separator]
  exact List.splitOn_intercalate '\n' (List.forall_mem_map.2 single)
    (List.map_eq_nil_iff.not.2 filled)

/-- Joined lines are split into themselves. -/
theorem splitOn_intercalate_lines {lines : List (List Char)} (filled : lines ≠ [])
    (single : ∀ line ∈ lines, '\n' ∉ line) :
    ("\n".intercalate (lines.map String.ofList)).toList.splitOn '\n' = lines := by
  have same : (lines.map String.ofList).map String.toList = lines := by
    rw [List.map_map]
    exact (List.map_congr_left fun line _ => String.toList_ofList).trans (List.map_id' lines)
  rw [splitOn_intercalate_single (List.map_eq_nil_iff.not.2 filled), same]
  exact List.forall_mem_map.2 fun line member => String.toList_ofList.symm ▸ single line member

/-- A margin does not matter to what drops it from the first line. -/
theorem map_splitOn_margin {margin : List Char} (blanks : IsMargin margin) {Left : Type}
    {left : List Char → Left} (drops : ∀ line, left (margin ++ line) = left line)
    (text : List Char) :
    ((margin ++ text).splitOn '\n').map left = (text.splitOn '\n').map left := by
  obtain ⟨line, lines, split⟩ := List.exists_cons_of_ne_nil (List.splitOn_ne_nil '\n' text)
  rw [splitOn_append blanks.not_mem, split, List.modifyHead_cons, List.map_cons, List.map_cons,
    drops]

/-- The lines of a text that ends within a line, without the blanks at their ends. -/
theorem map_trimEnd_lines {text : String} (unfinished : Unfinished text.toList) :
    (lines text).map (fun line => String.ofList (trimEnd line.toList)) =
      ((text.toList.splitOn '\n').map trimEnd).map String.ofList := by
  rw [lines, splitAt_eq_splitOn, ← map_trimEnd_closeLines unfinished.getLast_splitOn, List.map_map,
    List.map_map]
  exact List.map_congr_left fun line _ => by
    rw [Function.comp_apply, Function.comp_apply, String.toList_ofList]

end SceneCatalog.Text
