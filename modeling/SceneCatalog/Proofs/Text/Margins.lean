/-
This file puts margins in front of the lines of a text.
-/

namespace SceneCatalog.Text

/-- The margin stands in front of every line. -/
def withMargin (margin text : String) : String :=
  "\n".intercalate ((text.toList.splitOn '\n').map fun line => margin ++ String.ofList line)

/-- The margin stands behind every line end. -/
def continued (margin text : List Char) : List Char :=
  text.flatMap fun c => if c == '\n' then c :: margin else [c]

/-- A margin goes into both parts of a text. -/
theorem continued_append (margin first second : List Char) :
    continued margin (first ++ second) = continued margin first ++ continued margin second :=
  List.flatMap_append

/-- A text of one line is not changed. -/
theorem continued_of_not_mem (margin : List Char) {text : List Char} (single : '\n' ∉ text) :
    continued margin text = text := by
  induction text with
  | nil => rfl
  | cons c rest inductionHypothesis =>
      obtain ⟨other, restSingle⟩ : c ≠ '\n' ∧ '\n' ∉ rest := by
        simpa [eq_comm] using single
      have here : (c == '\n') = false := by simpa using other
      rw [continued, List.flatMap_cons, here, if_neg Bool.false_ne_true]
      exact congrArg (c :: ·) (inductionHypothesis restSingle)

theorem continued_lineEnd (margin : List Char) : continued margin ['\n'] = '\n' :: margin := by
  simp [continued]

theorem continued_newline (margin : List Char) : continued margin "\n".toList = '\n' :: margin :=
  continued_lineEnd margin

/-- What follows the first of several texts that are put together does not depend on it. -/
theorem exists_intercalate_cons (separator : List Char) (rest : List (List Char)) :
    ∃ tail, ∀ first, separator.intercalate (first :: rest) = first ++ tail := by
  cases rest with
  | nil => exact ⟨[], fun first => by simp [List.intercalate]⟩
  | cons next rest =>
      refine ⟨separator ++ separator.intercalate (next :: rest), fun first => ?_⟩
      rw [List.intercalate_cons_cons, List.append_assoc]

/-- What is put together of texts has their characters and those of the separator. -/
theorem mem_intercalate {separator : List Char} {pieces : List (List Char)} {c : Char}
    (member : c ∈ separator.intercalate pieces) : c ∈ separator ∨ ∃ piece ∈ pieces, c ∈ piece := by
  induction pieces with
  | nil => cases member
  | cons piece rest inductionHypothesis =>
      cases rest with
      | nil => exact .inr ⟨piece, .head _, by simpa using member⟩
      | cons next rest =>
          rw [List.intercalate_cons_cons, List.mem_append, List.mem_append] at member
          rcases member with (here | between) | later
          · exact .inr ⟨piece, .head _, here⟩
          · exact .inl between
          · exact (inductionHypothesis later).imp id fun ⟨other, among, inside⟩ =>
              ⟨other, .tail _ among, inside⟩

/-- The first margin stands in front of the text and the others behind its line ends. -/
theorem toList_withMargin (margin text : String) :
    (withMargin margin text).toList = margin.toList ++ continued margin.toList text.toList := by
  have joined (pieces : List (List Char)) :
      ("\n".intercalate (pieces.map fun line => margin ++ String.ofList line)).toList =
        ['\n'].intercalate (pieces.map (margin.toList ++ ·)) := by
    rw [String.toList_intercalate, List.map_map]
    congr 2
    funext line
    simp
  rw [withMargin, joined]
  induction text.toList with
  | nil => simp [continued, List.intercalate]
  | cons c rest inductionHypothesis =>
      obtain ⟨piece, pieces, split⟩ := List.exists_cons_of_ne_nil (List.splitOn_ne_nil '\n' rest)
      rw [split, List.map_cons] at inductionHypothesis
      rw [List.splitOn, List.splitOnP_cons_eq_if_modifyHead, ← List.splitOn, split]
      by_cases lineEnd : c = '\n'
      · subst lineEnd
        have first : continued margin.toList ('\n' :: rest) =
            '\n' :: margin.toList ++ continued margin.toList rest := by
          rw [← List.singleton_append, continued_append, continued_lineEnd]
        simp only [beq_self_eq_true, if_true, List.map_cons, List.intercalate_cons_cons,
          inductionHypothesis, first, List.append_nil]
        simp
      · have other : continued margin.toList (c :: rest) = c :: continued margin.toList rest := by
          simp [continued, lineEnd]
        obtain ⟨tail, after⟩ := exists_intercalate_cons ['\n'] (pieces.map (margin.toList ++ ·))
        rw [after, List.append_assoc, List.append_cancel_left_eq] at inductionHypothesis
        have here : (c == '\n') = false := by simpa using lineEnd
        rw [here, if_neg Bool.false_ne_true, List.modifyHead_cons, List.map_cons, after, other,
          ← inductionHypothesis]
        simp

example : withMargin "  " "box \x7b\n\x7d" = "  box \x7b\n  \x7d" := by decide +kernel

end SceneCatalog.Text
