import SceneCatalog.Proofs.Scene.Completeness
import SceneCatalog.Proofs.Text.Splitting
import SceneCatalog.Scene.RenderOptions

/-
This file states which lines the options of rendering are written to, and when their text has no
others.
-/

namespace SceneCatalog

open Text

namespace RenderOptions

/-- What stands behind the key of an option: flags are switches, formats of images have codes, and
all else is written as it is. -/
inductive Shows (name : String) : Value → String → Prop where
  | on : Shows name (.bool true) "on"
  | off : Shows name (.bool false) "off"
  | int (number : Int64) : Shows name (.int number) (toString number.toInt)
  | float (number : Float) : Shows name (.float number) (numberText number)
  | code (content : String) : Shows name (.code content) content
  | text (other : name ≠ "outputFileType") (content : String) :
      Shows name (.text content) content
  | format (named : name = "outputFileType") {keyword : Keyword}
      (member : keyword ∈ Vocabulary.outputFileTypes) :
      Shows name (.text keyword.key) keyword.word

/-- The line of an option that is set. -/
def LineOf (object : Object) (entry : String × String) (line : String) : Prop :=
  ∃ value text, object.value? entry.1 = some value ∧ Shows entry.1 value text ∧
    line = entry.2 ++ "=" ++ text

theorem Shows.valueText {name : String} {value : Value} {text : String}
    (shows : Shows name value text) : valueText name value = .ok text := by
  cases shows with
  | on => rfl
  | off => rfl
  | int number => rfl
  | float number => rfl
  | code content => rfl
  | text other content => rw [RenderOptions.valueText, if_neg (by simpa using other)]
  | @format named keyword member =>
      have coded : ∀ keyword ∈ Vocabulary.outputFileTypes,
          Vocabulary.outputFileTypes.word? keyword.key = some keyword.word := by
        decide
      rw [RenderOptions.valueText, if_pos (by simpa using named), coded keyword member]

/-- An option breaks its line only if its value is text that does. -/
theorem Shows.single_iff {name : String} {value : Value} {text : String}
    (shows : Shows name value text) :
    '\n' ∉ text.toList ↔ ∀ content, value.asText? = some content → '\n' ∉ content.toList := by
  have single {text : String} (free : marks text.toList = []) : '\n' ∉ text.toList :=
    blockwise_oneLine.unmarked free
  cases shows with
  | on => exact ⟨fun _ => nofun, fun _ => by decide⟩
  | off => exact ⟨fun _ => nofun, fun _ => by decide⟩
  | int number => exact ⟨fun _ => nofun, fun _ => single (marks_integer _)⟩
  | float number => exact ⟨fun _ => nofun, fun _ => single (marks_number number)⟩
  | code content => simp [Value.asText?]
  | text other content => simp [Value.asText?]
  | @format named keyword member =>
      have plain : ∀ keyword ∈ Vocabulary.outputFileTypes,
          '\n' ∉ keyword.key.toList ∧ '\n' ∉ keyword.word.toList := by
        decide
      simp [Value.asText?, plain keyword member]

/-- The values that the check passes can stand behind a key. -/
def writable (name : String) : Check → Bool
  | .bool => true
  | .int => true
  | .number => true
  | .within _ _ => true
  | .intWithin _ _ => true
  | .atLeast _ => true
  | .nonEmptyString => name != "outputFileType"
  | .key vocabulary => name == "outputFileType" && vocabulary == Vocabulary.outputFileTypes
  | _ => false

theorem Shows.of_number {name : String} {value : Value} {number : Float}
    (isNumber : value.finite? = some number) : ∃ text, Shows name value text := by
  obtain ⟨isFloat, _⟩ := Option.filter_eq_some_iff.1 isNumber
  cases value with
  | float number => exact ⟨_, .float number⟩
  | int number => exact ⟨_, .int number⟩
  | _ => contradiction

theorem Shows.of_integer {name : String} {value : Value} {number : Int64}
    (isInteger : value.asInt? = some number) : ∃ text, Shows name value text := by
  cases value with
  | int number => exact ⟨_, .int number⟩
  | _ => contradiction

/-- What a check for a writable option accepts can be shown. -/
theorem Shows.of_accepts {name : String} {check : Check} (written : writable name check = true)
    {value : Value} (accepted : check.accepts value = true) : ∃ text, Shows name value text := by
  cases check with
  | bool =>
      cases value with
      | bool flag =>
          cases flag with
          | true => exact ⟨_, .on⟩
          | false => exact ⟨_, .off⟩
      | _ => contradiction
  | int =>
      obtain ⟨number, isInteger⟩ := Option.isSome_iff_exists.1 accepted
      exact of_integer isInteger
  | number =>
      obtain ⟨number, isNumber⟩ := Option.isSome_iff_exists.1 accepted
      exact of_number isNumber
  | within low high =>
      obtain ⟨number, isNumber, _⟩ := (Option.any_eq_true _ _).1 accepted
      exact of_number isNumber
  | atLeast low =>
      obtain ⟨number, isNumber, _⟩ := (Option.any_eq_true _ _).1 accepted
      exact of_number isNumber
  | intWithin low high =>
      obtain ⟨number, isInteger, _⟩ := (Option.any_eq_true _ _).1 accepted
      exact of_integer isInteger
  | nonEmptyString =>
      cases value with
      | text content => exact ⟨_, .text (by simpa [writable] using written) content⟩
      | _ => contradiction
  | key vocabulary =>
      cases value with
      | text content =>
          rw [writable, Bool.and_eq_true, beq_iff_eq, beq_iff_eq] at written
          obtain ⟨keyword, member, keyed⟩ := List.any_eq_true.1 accepted
          obtain rfl := eq_of_beq keyed
          exact ⟨_, .format written.1 (written.2 ▸ member)⟩
      | _ => contradiction
  | _ => contradiction

/-- The value of the option has no line end in it. -/
def Unbroken (object : Object) (name : String) : Prop :=
  ∀ value content, object.value? name = some value → value.asText? = some content →
    '\n' ∉ content.toList

/-- The line of an option is a single one exactly when its value has no line end. -/
theorem LineOf.single_iff {object : Object} {entry : String × String} {line : String}
    (written : LineOf object entry line) (member : entry ∈ keys) :
    '\n' ∉ line.toList ↔ Unbroken object entry.1 := by
  obtain ⟨value, text, found, shows, rfl⟩ := written
  have plain : ∀ entry ∈ keys, '\n' ∉ (entry.2 ++ "=").toList := by decide
  rw [String.toList_append, List.mem_append, or_iff_right (plain entry member), shows.single_iff,
    Unbroken]
  constructor
  · intro single other content foundOther isText
    obtain rfl := Option.some.inj (found.symm.trans foundOther)
    exact single content isText
  · intro unbroken content isText
    exact unbroken value content found isText

/-- What holds of the second of each pair is what holds of the first. -/
theorem forall_mem_iff_of_forall₂ {First Second : Type} {related : First → Second → Prop}
    {earlier : First → Prop} {later : Second → Prop} {firsts : List First} {seconds : List Second}
    (pairs : List.Forall₂ related firsts seconds)
    (same : ∀ first ∈ firsts, ∀ second, related first second → (later second ↔ earlier first)) :
    (∀ second ∈ seconds, later second) ↔ ∀ first ∈ firsts, earlier first := by
  induction pairs with
  | nil => simp
  | cons here _ inductionHypothesis =>
      rw [List.forall_mem_cons, List.forall_mem_cons, same _ (.head _) _ here,
        inductionHypothesis fun first member => same first (.tail _ member)]

/-- The image options check each of their keys with a writable check. -/
theorem imageOptions_writable : (keys.all fun entry =>
    (catalog.class? "ImageOptions").any fun cls => (cls.rule? entry.1).any fun rule =>
      match rule.validator with
      | some (.check condition) => writable entry.1 condition
      | _ => false) = true := by
  decide

/-- The keys are those of the attributes, in another order. -/
theorem keys_perm : (keys.map (·.1)).Perm (Catalog.imageOptions.attributes.map (·.name)) := by
  decide

variable {object : Object} (made : object.Made) (named : object.className = "ImageOptions")
include made named

/-- Whatever is set under a key can be shown. -/
theorem shows_of_value {entry : String × String} (member : entry ∈ keys) {value : Value}
    (found : object.value? entry.1 = some value) : ∃ text, Shows entry.1 value text := by
  obtain ⟨cls, known, _⟩ := made.known
  have checked := List.all_eq_true.1 imageOptions_writable entry member
  rw [← named, known, Option.any_some] at checked
  obtain ⟨rule, ruled, suits⟩ := (Option.any_eq_true _ _).1 checked
  rcases (made.reads known ruled found).2 with ⟨code, rfl⟩ | ⟨validator, applies, fixed⟩
  · exact ⟨_, .code code⟩
  · rw [applies] at suits
    cases validator with
    | check condition => exact Shows.of_accepts suits (Validator.accepts_of_fixed fixed)
    | _ => contradiction

/-- Each option that is set has its line, and the others have none. -/
theorem settings_lines {entries : List (String × String)} (within : entries ⊆ keys) :
    ∃ lines, settings object entries = .ok (lines.map (· ++ "\n")) ∧
      List.Forall₂ (LineOf object)
        (entries.filter fun entry => (object.value? entry.1).isSome) lines := by
  induction entries with
  | nil => exact ⟨[], rfl, .nil⟩
  | cons entry rest inductionHypothesis =>
      obtain ⟨name, key⟩ := entry
      obtain ⟨member, others⟩ := List.cons_subset.1 within
      obtain ⟨lines, written, related⟩ := inductionHypothesis others
      rw [settings, List.filter_cons]
      cases found : object.value? name with
      | none => exact ⟨lines, written, related⟩
      | some value =>
          obtain ⟨text, shows⟩ := shows_of_value made named member found
          refine ⟨(key ++ "=" ++ text) :: lines, ?_, .cons ⟨value, text, found, shows, rfl⟩ related⟩
          dsimp only
          rw [shows.valueText, written]
          rfl

omit made in
theorem requireOwn_ok : object.requireOwn = .ok () := by
  have found : catalog.find? "ImageOptions" = some Catalog.imageOptions := by rfl
  rw [Object.requireOwn, named, found]
  rfl

/-- Options that are set are written one a line, in the order of the keys. The text has no other
lines if and only if no string or code among the options has a line end. -/
theorem write_lines :
    ∃ lines, write object = .ok (String.join (lines.map (· ++ "\n"))) ∧
      List.Forall₂ (LineOf object)
        (keys.filter fun entry => (object.value? entry.1).isSome) lines ∧
      lines.length = (Catalog.imageOptions.attributes.filter
        fun rule => (object.value? rule.name).isSome).length ∧
      (endedLines (String.join (lines.map (· ++ "\n"))).toList = lines.map String.toList ↔
        ∀ entry ∈ keys, Unbroken object entry.1) := by
  obtain ⟨lines, written, related⟩ := settings_lines made named (List.Subset.refl keys)
  have count : lines.length = (Catalog.imageOptions.attributes.filter
      fun rule => (object.value? rule.name).isSome).length := by
    have same := (keys_perm.filter fun name => (object.value? name).isSome).length_eq
    rw [List.filter_map, List.filter_map, List.length_map, List.length_map] at same
    rw [← related.length_eq]
    exact same
  refine ⟨lines, ?_, related, count, ?_⟩
  · rw [write, requireOwn_ok named, written]
    rfl
  · rw [endedLines_join_eq_iff, forall_mem_iff_of_forall₂ related fun entry member line shown =>
      shown.single_iff (List.mem_of_mem_filter member)]
    constructor
    · intro unbroken entry member value content found isText
      have set : (object.value? entry.1).isSome := Option.isSome_of_mem found
      exact unbroken entry (List.mem_filter.2 ⟨member, set⟩) value content found isText
    · intro unbroken entry member
      exact unbroken entry (List.mem_of_mem_filter member)

end RenderOptions

def Catalog.imageOptionsClass : Class := ⟨imageOptions, []⟩

theorem catalog_imageOptions : catalog.class? "ImageOptions" = some Catalog.imageOptionsClass :=
  Catalog.class_of_top (by rfl) rfl

namespace RenderOptions

/-- Four options are set, and a new object has its image written to a file. -/
def frame : Object := Catalog.imageOptionsClass.run Catalog.imageOptionsClass.blank [
  .assign "width" (.literal (.int 640)), .assign "antialias" (.literal (.bool false)),
  .set "outputFileType" (.literal (.text "png")), .set "libraryPath" (.raw "include")]

theorem frame_made : frame.Made :=
  .of_run _ catalog_imageOptions rfl rfl (by decide)

/-- The options of the frame are written as five lines. -/
theorem write_lines_frame :
    frame.Made ∧ frame.className = "ImageOptions" ∧
      ∃ lines : List String, lines.length = 5 ∧
        write frame = .ok (String.join (lines.map (· ++ "\n"))) ∧
        endedLines (String.join (lines.map (· ++ "\n"))).toList = lines.map String.toList := by
  obtain ⟨lines, written, _, count, single⟩ := write_lines frame_made rfl
  have unbroken : (keys.all fun entry => ((frame.value? entry.1).bind Value.asText?).all
      fun content => !content.toList.contains '\n') = true := by
    decide +kernel
  refine ⟨frame_made, rfl, lines, count.trans (by decide +kernel), written, single.2 ?_⟩
  intro entry member value content found isText
  have here := List.all_eq_true.1 unbroken entry member
  rw [found, Option.bind_some, isText] at here
  simpa using here

def brokenName : Object := Catalog.imageOptionsClass.run Catalog.imageOptionsClass.blank [
  .assign "outputFileName" (.literal (.text "a\nWidth=1"))]

/-- The name of a file sets another option. -/
theorem brokenName_lines :
    brokenName.Made ∧ brokenName.value? "width" = none ∧
      write brokenName = .ok "Output_To_File=on\nOutput_File_Name=a\nWidth=1\n" ∧
      (endedLines "Output_To_File=on\nOutput_File_Name=a\nWidth=1\n".toList).length ≠
        (Catalog.imageOptions.attributes.filter
          fun rule => (brokenName.value? rule.name).isSome).length := by
  refine ⟨.of_run _ catalog_imageOptions rfl rfl (by decide +kernel), rfl, ?_, ?_⟩
  · decide +kernel
  · decide +kernel

end RenderOptions

end SceneCatalog
