import SceneCatalog.Proofs.Scene.Bodies
import SceneCatalog.Proofs.Scene.Completeness
import SceneCatalog.Proofs.Text.Trimming

/-
This file says how height fields write their sources: which strings they take for functions, and
which formats they name in front of the others.
-/

namespace SceneCatalog

/-- A string in quotes is longer than the string. -/
theorem Text.length_quote (text : String) : text.length < (quote text).length := by
  have escaped (c : Char) : 1 ≤ (sceneEscape c).length := by
    unfold sceneEscape
    split <;> simp
  have whole (letters : List Char) : letters.length ≤ (letters.flatMap sceneEscape).length := by
    induction letters with
    | nil => exact Nat.le_refl _
    | cons c rest inductionHypothesis =>
        have here := escaped c
        rw [List.flatMap_cons, List.length_append, List.length_cons]
        omega
  have inside := whole text.toList
  rw [quote, String.length_ofList, ← String.length_toList, List.length_append, List.length_cons]
  omega

/-- Quoting a text behind a lead always changes it, since it grows. -/
theorem Text.quoted_ne (lead text : String) : lead ++ quote text ≠ text := by
  intro same
  have longer := length_quote text
  have length := congrArg String.length same
  rw [String.length_append] at length
  omega

/-- A function starts with its keyword behind blanks. -/
theorem isFunction_begins {text : String} (function : isFunction text = true) :
    "function".toList <+: Text.trimStart text.toList := by
  simp only [isFunction, Bool.and_eq_true, List.isPrefixOf_iff_prefix] at function
  exact function.1.1.trans (Text.trimEnd_begins _)

/-- An attribute with a choice of words stores one of them. -/
theorem Attribute.Settles.choice {rule : Attribute} {choices : List String}
    {value : Value} (settles : rule.Settles (.literal value))
    (ruled : rule.validator = some (.check (.oneOf choices))) :
    ∃ word ∈ choices, value = .text word := by
  have accepted := Validator.accepts_of_fixed (settles.fixed ruled)
  cases value with
  | text word => exact ⟨word, by simpa [Check.accepts] using accepted, rfl⟩
  | _ => contradiction

namespace Layout

/-- A source names no image exactly when it begins with `function` behind blanks. -/
theorem namesImage_eq_false_iff {source : String} :
    namesImage source = false ↔ "function".toList <+: Text.trimStart source.toList := by
  rw [namesImage, Bool.not_eq_false', List.isPrefixOf_iff_prefix]

/-- Behind the last mark stands what has no further mark. -/
theorem afterLast_append {mark : Char} (base : List Char) {ending : List Char}
    (free : mark ∉ ending) : afterLast? mark (base ++ mark :: ending) = some ending := by
  have others : ∀ c ∈ ending.reverse, (c != mark) = true := by
    intro c member
    rw [bne_iff_ne]
    rintro rfl
    exact free (List.mem_reverse.1 member)
  rw [afterLast?, if_pos (by simp), List.reverse_append, List.reverse_cons,
    List.append_assoc, List.takeWhile_append_of_pos others]
  simp

/-- A text with a mark can be split at the last one. -/
theorem exists_last {mark : Char} {text : List Char} (member : mark ∈ text) :
    ∃ base ending, text = base ++ mark :: ending ∧ mark ∉ ending := by
  obtain ⟨behind, before, split, free⟩ := List.eq_append_cons_of_mem (List.mem_reverse.2 member)
  refine ⟨before.reverse, behind.reverse, ?_, fun inside => free (List.mem_reverse.1 inside)⟩
  rw [← List.reverse_reverse text, split]
  simp

/-- The format of a file is spelt by the ending of its name in small letters. -/
theorem imageType_of_ending {file : String} {base ending : List Char}
    (split : file.toList = base ++ '.' :: ending) (free : '.' ∉ ending) :
    imageType file = String.ofList (ending.map Char.toLower) := by
  rw [imageType, split, afterLast_append base free]

/-- A file name without an ending is taken for a `png`. -/
theorem imageType_of_bare {file : String} (bare : '.' ∉ file.toList) : imageType file = "png" := by
  rw [imageType, afterLast?, if_neg (by simpa using bare)]

/-- The format of a file is a known one if its ending spells one or is missing. -/
theorem imageType_known_iff {file : String} :
    imageType file ∈ Vocabulary.heightFieldTypes ↔
      ∀ base ending, file.toList = base ++ '.' :: ending → '.' ∉ ending →
        String.ofList (ending.map Char.toLower) ∈ Vocabulary.heightFieldTypes := by
  constructor
  · intro known base ending split free
    exact imageType_of_ending split free ▸ known
  · intro spelt
    by_cases dotted : '.' ∈ file.toList
    · obtain ⟨base, ending, split, free⟩ := exists_last dotted
      exact imageType_of_ending split free ▸ spelt base ending split free
    · rw [imageType_of_bare dotted]
      decide

/-- A source is written as it is, or in quotes behind a format. -/
theorem heightFieldSource_ok {writer : NodeWriter} {object : Object} {source : String}
    (given : object.value? "source" = some (.text source)) {lines : List String}
    (there : heightFieldSource writer object = .ok lines) :
    namesImage source = false ∧ lines = [source] ∨
      namesImage source = true ∧ ∃ kind, textIfSet writer object "hfType" = .ok kind ∧
        lines = [kind.getD (imageType source) ++ " " ++ Text.quote source] := by
  rw [heightFieldSource, Object.required, given] at there
  dsimp only [bind, Except.bind] at there
  split at there
  · rename_i image
    obtain ⟨kind, chosen, made⟩ := ok_of_bind there
    exact .inr ⟨image, kind, chosen, (Except.ok.inj made).symm⟩
  · rename_i function
    exact .inl ⟨by simpa using function, (Except.ok.inj there).symm⟩

end Layout

def Catalog.heightFieldClass : Class := ⟨heightField, [primitive]⟩

theorem catalog_heightField : catalog.class? "HeightField" = some Catalog.heightFieldClass :=
  Catalog.class_of_primitive (by rfl) rfl (by decide)

theorem heightField_source : ∃ rule,
    Catalog.heightFieldClass.declaration? "source" = some (Catalog.heightField, .mutable rule) :=
  ⟨_, rfl⟩

/-- Formats that are set are known. -/
theorem heightField_format : ∃ rule,
    Catalog.heightFieldClass.declaration? "hfType" = some (Catalog.heightField, .mutable rule) ∧
      rule.validator = some (.check (.oneOf Vocabulary.heightFieldTypes)) :=
  ⟨_, rfl, rfl⟩

namespace Object

section Sources

variable {object : Object} (reached : Catalog.heightFieldClass.Reachable object) {source : String}
  (given : object.slot? "source" = some (.literal (.text source))) {stops : Nat} {written : String}
  (there : object.sceneText stops = .ok written)
include reached given there

/-- The source is the first line of the block. -/
theorem sceneText_heightField :
    ∃ comment line body,
      object.markup = .ok (.block comment "height_field" (.line line :: body)) ∧
      written = (Markup.block comment "height_field" (.line line :: body)).write stops ∧
      (Layout.namesImage source = false ∧ line = source ∨
        Layout.namesImage source = true ∧ ∃ kind, textIfSet markup object "hfType" = .ok kind ∧
          line = kind.getD (Layout.imageType source) ++ " " ++ Text.quote source) := by
  have named : object.className = "HeightField" := Class.className_of_fits reached.fits
  have found : Layout.ofClass? object.className = some Layout.heightField := by
    rw [named]
    rfl
  obtain ⟨rule, declared⟩ := heightField_source
  have read := (reached.value_of_slot catalog_heightField declared given).1
  obtain ⟨comment, body, entries, made, rfl⟩ := sceneText_ok found there
  obtain ⟨first, rest, top, _, rfl⟩ := Clause.writeAll_cons_ok entries
  obtain ⟨texts, lines, rfl⟩ := ok_of_map top
  rcases Layout.heightFieldSource_ok read lines with ⟨function, rfl⟩ | ⟨image, kind, chosen, rfl⟩
  · exact ⟨comment, source, rest, made, rfl, .inl ⟨function, rfl⟩⟩
  · exact ⟨comment, _, rest, made, rfl, .inr ⟨image, kind, chosen, rfl⟩⟩

/-- The source of a height field stands in the first line of its block, in quotes behind a format
unless it starts with the keyword of functions. The writer and the validator take the same sources
for functions, except for those that only start like one. -/
theorem sceneText_source :
    ∃ comment line body,
      object.markup = .ok (.block comment "height_field" (.line line :: body)) ∧
      written = (Markup.block comment "height_field" (.line line :: body)).write stops ∧
      (line = source ∨ ∃ format, line = format ++ " " ++ Text.quote source) ∧
      (line = source ↔ "function".toList <+: Text.trimStart source.toList) ∧
      (isFunction source = true → line = source) ∧
      ((line = source ↔ isFunction source = true) ↔
        isFunction source = true ∨ ¬"function".toList <+: Text.trimStart source.toList) := by
  obtain ⟨comment, line, body, made, rfl, ways⟩ := sceneText_heightField reached given there
  have shapes : line = source ∨ ∃ format, line = format ++ " " ++ Text.quote source := by
    rcases ways with ⟨_, same⟩ | ⟨_, kind, _, behind⟩
    · exact .inl same
    · exact .inr ⟨_, behind⟩
  have unquoted : line = source ↔ "function".toList <+: Text.trimStart source.toList := by
    rw [← Layout.namesImage_eq_false_iff]
    rcases ways with ⟨function, same⟩ | ⟨image, kind, _, rfl⟩
    · exact iff_of_true same function
    · exact iff_of_false (Text.quoted_ne _ _) (by simp [image])
  have functions : isFunction source = true → line = source :=
    fun function => unquoted.2 (isFunction_begins function)
  refine ⟨comment, line, body, made, rfl, shapes, unquoted, functions, ?_⟩
  rw [← unquoted]
  constructor
  · intro agree
    by_cases same : line = source
    · exact .inl (agree.1 same)
    · exact .inr same
  · rintro (function | quoted)
    · exact iff_of_true (functions function) function
    · exact iff_of_false quoted fun function => quoted (functions function)

end Sources

/-- A height field over a source. -/
def landscape (source : String) : Object :=
  Catalog.heightFieldClass.run Catalog.heightFieldClass.blank [
    .set "source" (.literal (.text source))]

theorem landscape_reached (source : String) :
    Catalog.heightFieldClass.Reachable (landscape source) :=
  ⟨_, _, .options SortedMap.empty rfl rfl, rfl⟩

/-- A file stands in quotes behind its format. -/
theorem sceneText_source_file :
    Catalog.heightFieldClass.Reachable (landscape "hills.png") ∧
      (landscape "hills.png").slot? "source" = some (.literal (.text "hills.png")) ∧
      ∃ comment line body, (landscape "hills.png").sceneText 0 =
          .ok ((Markup.block comment "height_field" (.line line :: body)).write 0) ∧
        line ≠ "hills.png" ∧ ∃ format, line = format ++ " " ++ Text.quote "hills.png" := by
  have given : (landscape "hills.png").slot? "source" = some (.literal (.text "hills.png")) := rfl
  have there : (landscape "hills.png").sceneText 0 =
      .ok "height_field \x7b\n    png \"hills.png\"\n\x7d" := by
    rfl
  obtain ⟨comment, line, body, _, written, shapes, unquoted, _⟩ :=
    sceneText_source (landscape_reached _) given there
  have quoted : line ≠ "hills.png" := fun same => absurd (unquoted.1 same) (by decide)
  exact ⟨landscape_reached _, given, comment, line, body, written ▸ there, quoted,
    shapes.resolve_left quoted⟩

/-- A file whose name starts with the keyword of functions stands without quotes and format. -/
theorem keyword_file_unquoted :
    Catalog.heightFieldClass.Reachable (landscape "functions.png") ∧
      (landscape "functions.png").slot? "source" = some (.literal (.text "functions.png")) ∧
      isFunction "functions.png" = false ∧
      (landscape "functions.png").sceneText 0 =
        .ok "height_field \x7b\n    functions.png\n\x7d" :=
  ⟨landscape_reached _, rfl, by decide, by rfl⟩

/-- A source that does not start with the keyword of functions stands in quotes behind a format. A
format that is set is a known one. Otherwise the ending of the source spells it in small letters, or
it is png for want of an ending, and it is known unless the ending spells another word. -/
theorem sceneText_format {object : Object} (reached : Catalog.heightFieldClass.Reachable object)
    {source : String} (given : object.slot? "source" = some (.literal (.text source)))
    (file : ¬"function".toList <+: Text.trimStart source.toList) {slot : Slot}
    (kept : object.slot? "hfType" = some slot)
    (fixed : slot = .unset ∨ ∃ value, slot = .literal value) {stops : Nat} {written : String}
    (there : object.sceneText stops = .ok written) :
    ∃ comment format body,
      object.markup = .ok (.block comment "height_field"
        (.line (format ++ " " ++ Text.quote source) :: body)) ∧
      written = (Markup.block comment "height_field"
        (.line (format ++ " " ++ Text.quote source) :: body)).write stops ∧
      (slot = .unset ∨ slot = .literal (.text format)) ∧
      (slot = .unset → ∀ base ending, source.toList = base ++ '.' :: ending → '.' ∉ ending →
        format = String.ofList (ending.map Char.toLower)) ∧
      (slot = .unset → '.' ∉ source.toList → format = "png") ∧
      (format ∈ Vocabulary.heightFieldTypes ↔
        (slot = .unset → ∀ base ending, source.toList = base ++ '.' :: ending → '.' ∉ ending →
          String.ofList (ending.map Char.toLower) ∈ Vocabulary.heightFieldTypes)) := by
  obtain ⟨comment, line, body, made, rfl, ways⟩ := sceneText_heightField reached given there
  have image : Layout.namesImage source ≠ false := fun function =>
    file (Layout.namesImage_eq_false_iff.1 function)
  obtain ⟨_, kind, chosen, rfl⟩ := ways.resolve_left fun way => image way.1
  obtain ⟨rule, declared, validated⟩ := heightField_format
  obtain ⟨read, settles⟩ := reached.value_of_slot catalog_heightField declared kept
  rcases fixed with rfl | ⟨value, rfl⟩
  · have unset : object.value? "hfType" = none := read
    rw [textIfSet, unset] at chosen
    obtain rfl := Except.ok.inj chosen
    refine ⟨comment, Layout.imageType source, body, made, rfl, .inl rfl, ?_, ?_, ?_⟩
    · exact fun _ base ending => Layout.imageType_of_ending
    · exact fun _ => Layout.imageType_of_bare
    · rw [Layout.imageType_known_iff]
      exact ⟨fun spelt _ => spelt, fun spelt => spelt rfl⟩
  · obtain ⟨format, known, rfl⟩ := settles.choice validated
    have set : object.value? "hfType" = some (.text format) := read
    rw [textIfSet, set] at chosen
    obtain rfl := Except.ok.inj chosen
    have apart : Slot.literal (.text format) ≠ .unset := Slot.noConfusion
    refine ⟨comment, format, body, made, rfl, .inr rfl, fun unset => absurd unset apart,
      fun unset => absurd unset apart, iff_of_true known fun unset => absurd unset apart⟩

/-- The ending of the file is a known format in capital letters. -/
theorem sceneText_format_capitals :
    Catalog.heightFieldClass.Reachable (landscape "a.b/HILLS.PNG") ∧
      (landscape "a.b/HILLS.PNG").slot? "source" = some (.literal (.text "a.b/HILLS.PNG")) ∧
      ¬"function".toList <+: Text.trimStart "a.b/HILLS.PNG".toList ∧
      (landscape "a.b/HILLS.PNG").slot? "hfType" = some .unset ∧
      ∃ comment format body, (landscape "a.b/HILLS.PNG").sceneText 0 =
          .ok ((Markup.block comment "height_field"
            (.line (format ++ " " ++ Text.quote "a.b/HILLS.PNG") :: body)).write 0) ∧
        format = "png" := by
  have given : (landscape "a.b/HILLS.PNG").slot? "source" =
      some (.literal (.text "a.b/HILLS.PNG")) := rfl
  have file : ¬"function".toList <+: Text.trimStart "a.b/HILLS.PNG".toList := by decide
  have kept : (landscape "a.b/HILLS.PNG").slot? "hfType" = some .unset := rfl
  have there : (landscape "a.b/HILLS.PNG").sceneText 0 =
      .ok "height_field \x7b\n    png \"a.b/HILLS.PNG\"\n\x7d" := by
    rfl
  obtain ⟨comment, format, body, _, written, _, spelt, _⟩ :=
    sceneText_format (landscape_reached _) given file kept (.inl rfl) there
  have ending := spelt rfl "a.b/HILLS".toList "PNG".toList (by decide) (by decide)
  exact ⟨landscape_reached _, given, file, kept, comment, format, body, written ▸ there, ending⟩

/-- A file with a usual ending that is no format of the vocabulary. -/
theorem unknown_format_written :
    Catalog.heightFieldClass.Reachable (landscape "hills.jpg") ∧
      (landscape "hills.jpg").slot? "source" = some (.literal (.text "hills.jpg")) ∧
      (landscape "hills.jpg").slot? "hfType" = some .unset ∧
      (landscape "hills.jpg").sceneText 0 =
        .ok "height_field \x7b\n    jpg \"hills.jpg\"\n\x7d" ∧
      "jpg" ∉ Vocabulary.heightFieldTypes :=
  ⟨landscape_reached _, rfl, rfl, by rfl, by decide⟩

end Object

end SceneCatalog
