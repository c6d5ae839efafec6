import SceneCatalog.Proofs.Text.OneLine
import SceneCatalog.Text.Quoted

/-
This file reads string literals of the scene language and shows that a quoted text ends where its
literal ends and is found again in it.
-/

namespace SceneCatalog.Text

/-- What stands in front of the first quote that no backslash escapes, and what stands behind it. A
backslash takes the next character with it. -/
def cutLiteral : List Char → Option (List Char × List Char)
  | [] => none
  | '"' :: rest => some ([], rest)
  | '\\' :: escaped :: rest =>
    (cutLiteral rest).map fun (inside, after) => ('\\' :: escaped :: inside, after)
  | c :: rest => (cutLiteral rest).map fun (inside, after) => (c :: inside, after)

/-- The text that is written with three escapes. Nothing else may follow a backslash, and quotes and
line feeds are always escaped. -/
def unescape : List Char → Option (List Char)
  | [] => some []
  | '\\' :: '"' :: rest => (unescape rest).map ('"' :: ·)
  | '\\' :: '\\' :: rest => (unescape rest).map ('\\' :: ·)
  | '\\' :: 'n' :: rest => (unescape rest).map ('\n' :: ·)
  | c :: rest =>
    if c == '\\' || c == '"' || c == '\n' then none else (unescape rest).map (c :: ·)

/-- What a character is written as is taken as a whole. -/
theorem cutLiteral_sceneEscape (c : Char) (rest : List Char) :
    cutLiteral (sceneEscape c ++ rest) =
      (cutLiteral rest).map fun (inside, after) => (sceneEscape c ++ inside, after) := by
  unfold sceneEscape
  split
  case h_4 quote backslash _ =>
    exact cutLiteral.eq_4 c rest quote fun _ _ same _ => backslash same
  all_goals rfl

/-- An escaped character is read back. -/
theorem unescape_sceneEscape (c : Char) (rest : List Char) :
    unescape (sceneEscape c ++ rest) = (unescape rest).map (c :: ·) := by
  unfold sceneEscape
  split
  case h_4 quote backslash lineFeed =>
    have plain : (c == '\\' || c == '"' || c == '\n') = false := by
      simpa using ⟨⟨backslash, quote⟩, lineFeed⟩
    rw [List.singleton_append, unescape, plain, if_neg Bool.false_ne_true]
    all_goals exact fun _ same _ => backslash same
  all_goals rfl

/-- An escaped text has no quote that ends a literal. -/
theorem cutLiteral_escaped (text after : List Char) :
    cutLiteral (text.flatMap sceneEscape ++ '"' :: after) =
      some (text.flatMap sceneEscape, after) := by
  induction text with
  | nil => rfl
  | cons c rest inductionHypothesis =>
      rw [List.flatMap_cons, List.append_assoc, cutLiteral_sceneEscape, inductionHypothesis]
      rfl

/-- An escaped text is read back, character by character. -/
theorem unescape_escaped (text : List Char) :
    unescape (text.flatMap sceneEscape) = some text := by
  induction text with
  | nil => rfl
  | cons c rest inductionHypothesis =>
      rw [List.flatMap_cons, unescape_sceneEscape, inductionHypothesis]
      rfl

/-- A quoted text is the escaped one between quotes. -/
theorem toList_quote (text : String) :
    (quote text).toList = '"' :: text.toList.flatMap sceneEscape ++ ['"'] :=
  String.toList_ofList

/-- A quoted text stands between two quotes in one line. Read from its second character on, it ends
with its last one, whatever follows it. What stands between the quotes is the text with three
escapes, so that no other text is quoted alike. -/
theorem quote_readable (text : String) :
    ∃ inside, (quote text).toList = '"' :: inside ++ ['"'] ∧ OneLine (quote text) ∧
      (∀ after, cutLiteral ((quote text).toList.tail ++ after) = some (inside, after)) ∧
      (unescape inside).map String.ofList = some text ∧
      ∀ other, quote other = quote text ↔ other = text := by
  have content (text : String) :
      (unescape (text.toList.flatMap sceneEscape)).map String.ofList = some text := by
    rw [unescape_escaped, Option.map_some, String.ofList_toList]
  refine ⟨text.toList.flatMap sceneEscape, toList_quote text, .quote text, fun after => ?_,
    content text, fun other => ⟨fun same => ?_, congrArg quote⟩⟩
  · rw [toList_quote, List.cons_append, List.tail_cons, List.append_assoc, List.singleton_append,
      cutLiteral_escaped]
  · have spelled := congrArg String.toList same
    rw [toList_quote, toList_quote] at spelled
    have inside := List.append_cancel_right (List.cons.inj spelled).2
    have read := content other
    rw [inside, content text] at read
    exact (Option.some.inj read).symm

example : cutLiteral "a\\\\\" b".toList = some ("a\\\\".toList, " b".toList) := by decide

end SceneCatalog.Text
