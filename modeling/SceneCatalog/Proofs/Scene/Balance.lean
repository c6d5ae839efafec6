import SceneCatalog.Proofs.Scene.Shifting

/-
This file shows that the text of an object is one block whose braces are in balance.
-/

namespace SceneCatalog

open Markup Text

namespace Markup

/-- Only line ends stand between lines. -/
theorem unbroken_intercalate (parts : List String) :
    ("\n".intercalate parts).toList.filter (· != '\n') =
      (parts.flatMap String.toList).filter (· != '\n') := by
  induction parts with
  | nil => rfl
  | cons part rest inductionHypothesis =>
      cases rest with
      | nil => simp
      | cons next rest =>
          have lineEnd : "\n".toList.filter (· != '\n') = [] := rfl
          rw [String.intercalate_cons_cons, List.flatMap_cons, String.toList_append,
            String.toList_append, List.filter_append, List.filter_append, List.filter_append,
            inductionHypothesis, lineEnd, List.append_nil]

/-- Indenting lines adds no marks. -/
theorem marks_indented (stops : Nat) (texts : List String) :
    marks ((texts.map (tab stops ++ ·)).flatMap String.toList) =
      marks (texts.flatMap String.toList) := by
  induction texts with
  | nil => rfl
  | cons text rest inductionHypothesis =>
      rw [List.map_cons, List.flatMap_cons, List.flatMap_cons, marks_append, marks_append,
        inductionHypothesis, String.toList_append, marks_append, marks_tab, List.nil_append]

variable {stops : Nat} {comment : Option String} {keyword : String} {body rest : List Markup}

theorem balanced_lineEnd : Phrase Balanced "\n" := Balanced.unbroken_iff.1 .nil

/-- What stands between the braces of a block is balanced when its body is. -/
theorem balanced_inner (inside : Passage Balanced (writeAll (stops + 1) body)) :
    Phrase Balanced (inner stops body) := by
  have formal := Balanced.blockwise.toFormal
  cases written : writeAll (stops + 1) body with
  | nil =>
      rw [inner, written]
      exact formal.words (rfl : marks " ".toList = [])
  | cons first rest =>
      rw [written, Passage, ← Balanced.unbroken_iff, ← unbroken_intercalate,
        Balanced.unbroken_iff] at inside
      have opened : Phrase Balanced ("\n" ++ "\n".intercalate (first :: rest) ++ "\n") :=
        formal.beside (formal.beside balanced_lineEnd inside) balanced_lineEnd
      rw [inner, written]
      exact formal.beside opened (formal.words (marks_tab stops))

/-- The comment above a block is balanced when its text is. -/
theorem balanced_comment (held : ∀ text, comment = some text → Phrase Balanced text) :
    Phrase Balanced (commentLine (tab stops) comment) := by
  have formal := Balanced.blockwise.toFormal
  cases comment with
  | none => exact formal.nil
  | some text =>
      have slashes : Phrase Balanced (tab stops ++ "// ") :=
        formal.beside (formal.words (marks_tab stops)) (formal.words rfl)
      exact formal.beside (formal.beside slashes (held text rfl)) balanced_lineEnd

/-- Blocks are balanced from their comments to their closing braces. -/
theorem Sound.writeAll_balanced {markups : List Markup} (sound : Sound Balanced markups)
    (stops : Nat) : Passage Balanced (writeAll stops markups) := by
  have formal := Balanced.blockwise.toFormal
  induction sound generalizing stops with
  | nil => exact .nil
  | @lines texts rest held _ inductionHypothesis =>
      rw [writeAll_append, writeAll_lines, Passage, List.flatMap_append]
      exact formal.append (formal.congr (marks_indented stops texts).symm held)
        (inductionHypothesis stops)
  | @block comment keyword body rest commentHeld word _ _ bodyHypothesis restHypothesis =>
      have braced := Balanced.blockwise.braced (balanced_inner (bodyHypothesis (stops + 1)))
      have opening : Phrase Balanced (commentLine (tab stops) comment ++ tab stops ++ keyword) :=
        formal.beside
          (formal.beside (balanced_comment commentHeld) (formal.words (marks_tab stops)))
          (formal.words word)
      have same : (write stops (.block comment keyword body)).toList =
          (commentLine (tab stops) comment ++ tab stops ++ keyword ++ " ").toList ++
            ('\x7b' :: (inner stops body).toList ++ ['\x7d']) := by
        have spaced : " \x7b" = " " ++ "\x7b" := rfl
        rw [write_block, spaced]
        simp
      have block : Phrase Balanced (write stops (.block comment keyword body)) := by
        rw [Phrase, same]
        exact formal.append (formal.beside opening (formal.words rfl)) braced
      rw [writeAll, Passage, List.flatMap_cons]
      exact formal.append block (restHypothesis stops)

/-- What is sound about one block is sound about its parts. -/
theorem Sound.of_block {holds : List Char → Prop} {markups : List Markup}
    (sound : Sound holds markups) (shape : markups = .block comment keyword body :: rest) :
    (∀ text, comment = some text → Phrase holds text) ∧ Sound holds body := by
  induction sound with
  | nil => contradiction
  | @lines texts _ _ _ inductionHypothesis =>
      -- Blocks may stand behind lines that are none.
      cases texts with
      | nil => exact inductionHypothesis shape
      | cons text texts => cases shape
  | block commentHeld _ inner _ _ _ =>
      cases shape
      exact ⟨commentHeld, inner⟩

end Markup

def Validator.isNonEmptyString : Validator → Bool
  | check .nonEmptyString => true
  | _ => false

/-- Every class that is written as a block takes strings only for its `id`. -/
theorem identifiers_are_strings : (Layout.ofObjects.all fun entry =>
    (catalog.class? entry.1).any fun cls => ((cls.rule? "id").bind Attribute.validator).any
      Validator.isNonEmptyString) = true := by
  decide

namespace Object

/-- The identifier of an object of a scene is a string or code. -/
theorem Built.textIfSet_id {object : Object} (built : object.Built) {layout : Layout}
    (laid : (object.className, layout) ∈ Layout.ofObjects) (writer : NodeWriter) :
    textIfSet writer object "id" = .ok ((object.value? "id").bind Value.asText?) := by
  obtain ⟨cls, known, _⟩ := built.known
  have isString := Layout.all_of_class
    (fun _ cls => ((cls.rule? "id").bind Attribute.validator).any Validator.isNonEmptyString)
    identifiers_are_strings laid known
  obtain ⟨validator, chosen, isString⟩ := (Option.any_eq_true _ _).1 isString
  obtain ⟨rule, ruled, validated⟩ := Option.bind_eq_some_iff.1 chosen
  rw [textIfSet]
  cases read : object.value? "id" with
  | none => rfl
  | some value =>
      rcases (built.toMade.reads known ruled read).2 with ⟨code, rfl⟩ | ⟨same, applies, fixed⟩
      · rfl
      · obtain rfl := Option.some.inj (validated.symm.trans applies)
        cases validator with
        | check condition =>
            cases condition with
            | nonEmptyString =>
                have accepted := Validator.accepts_of_fixed fixed
                cases value with
                | text content => rfl
                | _ => contradiction
            | _ => contradiction
        | _ => contradiction

/-- An object is written as one block, with its identifier above. -/
theorem Built.markup_ok {object : Object} (built : object.Built) {markup : Markup}
    (written : object.markup = .ok markup) :
    ∃ keyword body, Text.isWord keyword = true ∧
      markup = .block ((object.value? "id").bind Value.asText?) keyword body := by
  obtain ⟨layout, found⟩ := Option.isSome_iff_exists.1 built.isNode
  have laid := Layout.mem_of_ofClass found
  rw [Object.markup, markupWithin, found] at written
  dsimp only at written
  obtain ⟨_, _, written⟩ := ok_of_bind written
  obtain ⟨body, _, written⟩ := ok_of_bind written
  rw [built.textIfSet_id laid] at written
  exact ⟨layout.keyword object, body, Layout.keyword_isWord laid object,
    (Except.ok.inj written).symm⟩

/-- The strings and code of the object have no line ends and balanced braces, and there are no
braces in the names of images. -/
structure Tidy (object : Object) : Prop where
  unbroken : object.Unbroken
  balanced : ∀ content, object.Mentions content → Balanced content.toList
  files : ∀ file, object.NamesFile file → '\x7b' ∉ file.toList ∧ '\x7d' ∉ file.toList

/-- A tidy object gives every attribute a balanced text. -/
theorem Tidy.voiced {object : Object} (made : object.Made) (tidy : object.Tidy) :
    object.Voiced Balanced where
  strings := tidy.balanced
  endings := by
    intro file names ending suffix
    have single := tidy.unbroken file (made.mentions_file names)
    obtain ⟨opening, closing⟩ := tidy.files file names
    have free : marks file.toList = [] := by
      rw [marks_eq_nil_iff]
      intro c member
      exact isMark_false_iff.2 ⟨fun same => single (same ▸ member),
        fun same => opening (same ▸ member), fun same => closing (same ▸ member)⟩
    exact Balanced.blockwise.unmarked (marks_sublist suffix.sublist free)

/-- The text of an object is a line with its identifier, if it has one, and a block that stands
under one word and closes at its last character and not before. -/
theorem sceneText_encloses {object : Object} (built : object.Everywhere Built)
    (tidy : object.Everywhere Tidy) {stops : Nat} {text : String}
    (written : object.sceneText stops = .ok text) :
    ∃ keyword inner, Text.isWord keyword = true ∧
      text = commentLine (tab stops) ((object.value? "id").bind Value.asText?) ++ tab stops ++
        keyword ++ " \x7b" ++ inner ++ "\x7d" ∧
      (∀ comment, (object.value? "id").bind Value.asText? = some comment →
        '\n' ∉ comment.toList) ∧
      (∀ start, start <+: '\x7b' :: inner.toList → start ≠ [] → 0 < braceDepth start) ∧
      braceDepth ('\x7b' :: inner.toList ++ ['\x7d']) = 0 := by
  cases there : object.markup with
  | error error =>
      rw [sceneText, there] at written
      contradiction
  | ok block =>
      rw [sceneText, there] at written
      obtain rfl : block.write stops = text := Except.ok.inj written
      obtain ⟨keyword, body, word, rfl⟩ := built.here.markup_ok there
      have unbroken := (built.and tidy).mono fun _ both => both.2.unbroken.voiced both.1.toMade
      have balanced := (built.and tidy).mono fun _ both => both.2.voiced both.1.toMade
      have single := (object.markup_delivers blockwise_oneLine built unbroken).good_of_ok there
      have sound := (object.markup_delivers Balanced.blockwise built balanced).good_of_ok there
      have inside := balanced_inner ((sound.of_block rfl).2.writeAll_balanced (stops + 1))
      obtain ⟨positive, closed⟩ := inside.enclosed
      exact ⟨keyword, inner stops body, word, write_block .., (single.of_block rfl).1, positive,
        closed⟩

/-- The text of the merge encloses that of the ball. -/
theorem sceneText_encloses_merged :
    merged.Everywhere Built ∧ merged.Everywhere Tidy ∧ ∃ text, merged.sceneText 1 = .ok text ∧
      ∃ keyword inner, Text.isWord keyword = true ∧
        text = tab 1 ++ keyword ++ " \x7b" ++ inner ++ "\x7d" ∧
        (∀ start, start <+: '\x7b' :: inner.toList → start ≠ [] → 0 < braceDepth start) ∧
        braceDepth ('\x7b' :: inner.toList ++ ['\x7d']) = 0 := by
  have tidy : merged.Everywhere Tidy := by
    apply merged_everywhere
    · exact ⟨merged_unbroken.here,
        fun content mentioned => absurd mentioned (merged_mentions content),
        fun file names => absurd names.1 (by decide +kernel)⟩
    · refine ⟨ball_unbroken, fun content mentioned => ?_,
        fun file names => absurd names.1 (by decide +kernel)⟩
      have balanced : ["<0, 1, 0>", "1", "ball", "texture \x7b T_Stone1 \x7d"].all
          (fun text => decide (Balanced text.toList)) = true := by
        decide +kernel
      simpa using List.all_eq_true.1 balanced content (ball_mentions mentioned)
  obtain ⟨text, written⟩ := merged_text 1
  obtain ⟨keyword, inner, word, shape, _, positive, closed⟩ :=
    sceneText_encloses merged_built tidy written
  exact ⟨merged_built, tidy, text, written, keyword, inner, word, shape, positive, closed⟩

end Object

end SceneCatalog
