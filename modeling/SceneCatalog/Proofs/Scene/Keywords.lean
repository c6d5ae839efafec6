import SceneCatalog.Proofs.Scene.Fractals
import SceneCatalog.Proofs.Scene.HeightFields
import SceneCatalog.Proofs.Scene.Listings
import SceneCatalog.Proofs.Scene.RenderLines

/-
This file shows that the words for stored keys are always found, as the vocabulary that a key is
checked with is the one that it is written with.
-/

namespace SceneCatalog

/-- An attribute with a vocabulary stores keys that have a word. -/
theorem Attribute.Settles.keyword {rule : Attribute} {vocabulary : Vocabulary} {value : Value}
    (settles : rule.Settles (.literal value))
    (ruled : rule.validator = some (.check (.key vocabulary))) :
    ∃ keyword ∈ vocabulary, value = .text keyword.key ∧
      vocabulary.word? keyword.key = some keyword.word := by
  have accepted := Validator.accepts_of_fixed (settles.fixed ruled)
  cases value with
  | text content =>
      have known : (vocabulary.find? (·.key == content)).isSome := by
        rw [List.find?_isSome]
        exact List.any_eq_true.1 accepted
      obtain ⟨keyword, found⟩ := Option.isSome_iff_exists.1 known
      obtain rfl : keyword.key = content := by simpa using List.find?_some found
      refine ⟨keyword, List.mem_of_find?_eq_some found, rfl, ?_⟩
      rw [Vocabulary.word?, found, Option.map_some]
  | _ => contradiction

/-! Blocks that begin with a word. -/

/-- The first clause of a layout writes the first lines of its blocks. -/
theorem Object.sceneText_begins {object : Object} {layout : Layout}
    (found : Layout.ofClass? object.className = some layout) {first : Clause} {rest : List Clause}
    {sections : List Section} (begins : layout.sections = .always (first :: rest) :: sections)
    {stops : Nat} {written : String} (there : object.sceneText stops = .ok written) :
    ∃ comment above below, first.write markup object = .ok above ∧
      written = (Markup.block comment (layout.keyword object) (above ++ below)).write stops := by
  obtain ⟨block, made, rfl⟩ := ok_of_map there
  rw [markup_eq found, writeAs, Layout.write, begins] at made
  obtain ⟨_, _, made⟩ := ok_of_bind made
  obtain ⟨body, entries, made⟩ := ok_of_bind made
  obtain ⟨comment, _, made⟩ := ok_of_bind made
  obtain rfl := Except.ok.inj made
  rw [Section.writeAll] at entries
  obtain ⟨upper, always, entries⟩ := ok_of_bind entries
  obtain ⟨lower, _, entries⟩ := ok_of_bind entries
  obtain rfl := Except.ok.inj entries
  obtain ⟨above, below, here, _, rfl⟩ := Clause.writeAll_cons_ok always
  exact ⟨comment, above, below ++ lower, here, by rw [List.append_assoc]⟩

/-- A line that begins with the word for a key. -/
theorem Clause.keyed_line_ok {writer : NodeWriter} {object : Object} {vocabulary : Vocabulary}
    {name key word : String} (given : object.value? name = some (.text key))
    (found : vocabulary.word? key = some word) {pieces : List Piece} {entries : List Markup}
    (there : (line (.keyed vocabulary name :: pieces)).write writer object = .ok entries) :
    ∃ texts, pieces.mapM (Piece.write writer object) = .ok texts ∧
      entries = [.line (word ++ String.join texts)] := by
  obtain ⟨text, joined, rfl⟩ := ok_of_map there
  obtain ⟨all, each, rfl⟩ := ok_of_map joined
  rw [List.mapM_cons] at each
  obtain ⟨first, keyed, each⟩ := ok_of_bind each
  obtain ⟨texts, rest, each⟩ := ok_of_bind each
  obtain rfl := Except.ok.inj each
  obtain ⟨value, stored, keyed⟩ := ok_of_bind keyed
  obtain rfl := Except.ok.inj ((Object.required_ok_iff.2 given).symm.trans stored)
  rw [Value.keyed, found] at keyed
  obtain rfl := Except.ok.inj keyed
  exact ⟨texts, rest, by rw [String.join_cons]; rfl⟩

/-- Cylinders are the only cameras whose line goes on behind their word. -/
theorem Layout.cameraType_ok {writer : NodeWriter} {object : Object} {key word : String}
    (given : object.value? "type" = some (.text key))
    (found : Vocabulary.cameraTypes.word? key = some word) {lines : List String}
    (there : cameraType writer object = .ok lines) :
    word ≠ "cylinder" ∧ lines = [word] ∨
      word = "cylinder" ∧ ∃ variant, lines = [word ++ (" " ++ variant)] := by
  obtain ⟨value, stored, there⟩ := ok_of_bind there
  obtain rfl := Except.ok.inj ((Object.required_ok_iff.2 given).symm.trans stored)
  obtain ⟨kind, keyed, there⟩ := ok_of_bind there
  rw [Value.keyed, found] at keyed
  obtain rfl := Except.ok.inj keyed
  by_cases cylinder : word = "cylinder"
  · subst cylinder
    obtain ⟨variant, _, there⟩ := ok_of_bind there
    obtain rfl := Except.ok.inj there
    exact .inr ⟨rfl, variant.getD "1", rfl⟩
  · rw [Option.getD_some, if_neg (by simpa using cylinder)] at there
    exact .inl ⟨cylinder, (Except.ok.inj there).symm⟩

/-- A class whose blocks begin with the word for one of its attributes, and the words that more
stands behind in their line. -/
structure Wording where
  own : ClassTable
  name : String
  vocabulary : Vocabulary
  layout : Layout
  first : Clause
  goesOn : String → Bool

namespace Wording

def all : List Wording := [
  { own := Catalog.camera, name := "type", vocabulary := Vocabulary.cameraTypes
    layout := Layout.camera, first := .lines Layout.cameraType, goesOn := (· == "cylinder") },
  { own := Catalog.lathe, name := "type", vocabulary := Vocabulary.splineTypes
    layout := Layout.lathe, first := .line [.keyed Vocabulary.splineTypes "type"]
    goesOn := fun _ => false },
  { own := Catalog.prism, name := "type", vocabulary := Vocabulary.prismTypes
    layout := Layout.prism, first := .line [.keyed Vocabulary.prismTypes "type"]
    goesOn := fun _ => false },
  { own := Catalog.sphereSweep, name := "type", vocabulary := Vocabulary.sweepTypes
    layout := Layout.sphereSweep, first := .line [.keyed Vocabulary.sweepTypes "type"]
    goesOn := fun _ => false },
  { own := Catalog.text, name := "fontType", vocabulary := Vocabulary.fontTypes
    layout := Layout.text
    first := .line [.keyed Vocabulary.fontTypes "fontType", .words " ", .quoted "font",
      .words " ", .quoted "displayText"]
    goesOn := fun _ => true }]

/-- The layout of each wording begins with its clause, which is checked over the table. -/
theorem laid : ∀ wording ∈ all, Layout.ofClass? wording.own.name = some wording.layout ∧
    ∃ rest sections, wording.layout.sections = .always (wording.first :: rest) :: sections := by
  simp only [all, List.forall_mem_cons]
  exact ⟨⟨rfl, _, _, rfl⟩, ⟨rfl, _, _, rfl⟩, ⟨rfl, _, _, rfl⟩, ⟨rfl, _, _, rfl⟩,
    ⟨rfl, _, _, rfl⟩, List.forall_mem_nil _⟩

/-- The attribute is checked with the vocabulary. -/
theorem ruled : ∀ wording ∈ all,
    catalog.class? wording.own.name = some ⟨wording.own, [Catalog.primitive]⟩ ∧
      ∃ rule, Class.declaration? ⟨wording.own, [Catalog.primitive]⟩ wording.name =
          some (wording.own, .mutable rule) ∧
        rule.validator = some (.check (.key wording.vocabulary)) := by
  simp only [all, List.forall_mem_cons]
  exact ⟨⟨Catalog.class_of_primitive (by rfl) rfl (by decide), _, rfl, rfl⟩,
    ⟨Catalog.class_of_primitive (by rfl) rfl (by decide), _, rfl, rfl⟩,
    ⟨Catalog.class_of_primitive (by rfl) rfl (by decide), _, rfl, rfl⟩,
    ⟨Catalog.class_of_primitive (by rfl) rfl (by decide), _, rfl, rfl⟩,
    ⟨Catalog.class_of_primitive (by rfl) rfl (by decide), _, rfl, rfl⟩, List.forall_mem_nil _⟩

/-- Behind the word the line ends, or goes on after a blank. -/
def Follows (wording : Wording) (word more : String) : Prop :=
  if wording.goesOn word = true then ∃ text, more = " " ++ text else more = ""

theorem follows_blank {wording : Wording} {word : String} (goes : wording.goesOn word = true)
    (text : String) : wording.Follows word (" " ++ text) := by
  rw [Follows, if_pos goes]
  exact ⟨text, rfl⟩

theorem follows_nothing {wording : Wording} {word : String}
    (ends : wording.goesOn word = false) : wording.Follows word "" := by
  rw [Follows, if_neg (by simp [ends])]

/-- The first clause writes one line, which begins with the word for the key. -/
def Opens (wording : Wording) : Prop :=
  ∀ (writer : NodeWriter) (object : Object) (key word : String) (entries : List Markup),
    object.value? wording.name = some (.text key) → wording.vocabulary.word? key = some word →
    wording.first.write writer object = .ok entries →
    ∃ more, entries = [.line (word ++ more)] ∧ wording.Follows word more

/-- A line may hold the word alone. -/
theorem opens_alone {wording : Wording}
    (alone : wording.first = .line [.keyed wording.vocabulary wording.name])
    (ends : ∀ word, wording.goesOn word = false) : wording.Opens := by
  intro writer object key word entries given found there
  rw [alone] at there
  obtain ⟨texts, rest, rfl⟩ := Clause.keyed_line_ok given found there
  obtain rfl := Except.ok.inj rest
  exact ⟨_, rfl, follows_nothing (ends word)⟩

/-- Each wording opens its block with the word for its key. -/
theorem opens : ∀ wording ∈ all, wording.Opens := by
  simp only [all, List.forall_mem_cons]
  refine ⟨?camera, opens_alone rfl fun _ => rfl, opens_alone rfl fun _ => rfl,
    opens_alone rfl fun _ => rfl, ?text, List.forall_mem_nil _⟩
  case camera =>
    intro writer object key word entries given found there
    obtain ⟨lines, composed, rfl⟩ := ok_of_map there
    rcases Layout.cameraType_ok given found composed with ⟨other, rfl⟩ | ⟨rfl, variant, rfl⟩
    · exact ⟨"", by rw [String.append_empty]; rfl, follows_nothing (by simpa using other)⟩
    · exact ⟨_, rfl, follows_blank rfl variant⟩
  case text =>
    intro writer object key word entries given found there
    obtain ⟨texts, rest, rfl⟩ := Clause.keyed_line_ok given found there
    rw [List.mapM_cons] at rest
    obtain ⟨blank, first, rest⟩ := ok_of_bind rest
    obtain ⟨others, _, rest⟩ := ok_of_bind rest
    obtain rfl := Except.ok.inj first
    obtain rfl := Except.ok.inj rest
    rw [String.join_cons]
    exact ⟨_, rfl, follows_blank rfl (String.join others)⟩

end Wording

/-! Formats of images. -/

namespace RenderOptions

/-- Settings stand one behind the other, and the first that fails decides the error. -/
theorem settings_append (object : Object) (first second : List (String × String)) :
    settings object (first ++ second) = (do
      let above ← settings object first
      return above ++ (← settings object second)) := by
  induction first with
  | nil =>
      rw [List.nil_append]
      cases settings object second <;> rfl
  | cons entry rest inductionHypothesis =>
      obtain ⟨name, key⟩ := entry
      rw [List.cons_append, settings, settings, inductionHypothesis]
      cases object.value? name with
      | none => rfl
      | some value =>
          dsimp only
          cases valueText name value with
          | error error => rfl
          | ok text =>
              cases settings object rest with
              | error error => rfl
              | ok above => cases settings object second <;> rfl

/-- Settings fail with the error of one of the values. -/
theorem exists_of_settings_error {object : Object} {entries : List (String × String)}
    {error : SceneError} (failed : settings object entries = .error error) :
    ∃ entry ∈ entries, ∃ value, object.value? entry.1 = some value ∧
      valueText entry.1 value = .error error := by
  induction entries with
  | nil => contradiction
  | cons entry rest inductionHypothesis =>
      obtain ⟨name, key⟩ := entry
      have later (failed : settings object rest = .error error) :
          ∃ entry ∈ (name, key) :: rest, ∃ value, object.value? entry.1 = some value ∧
            valueText entry.1 value = .error error := by
        obtain ⟨entry, member, found⟩ := inductionHypothesis failed
        exact ⟨entry, .tail _ member, found⟩
      rw [settings] at failed
      cases found : object.value? name with
      | none =>
          rw [found] at failed
          exact later failed
      | some value =>
          rw [found] at failed
          dsimp only at failed
          cases here : valueText name value with
          | error first =>
              rw [here] at failed
              obtain rfl := Except.error.inj failed
              exact ⟨_, .head _, value, found, here⟩
          | ok text =>
              rw [here] at failed
              cases behind : settings object rest with
              | error second =>
                  rw [behind] at failed
                  obtain rfl := Except.error.inj failed
                  exact later behind
              | ok lines =>
                  rw [behind] at failed
                  contradiction

/-- Only formats are looked up; all other values fail only if their text does. -/
theorem verbatimText_of_valueText_error {name : String} (other : name ≠ "outputFileType")
    {value : Value} {error : SceneError} (failed : valueText name value = .error error) :
    value.verbatimText = .error error := by
  cases value with
  | bool flag => contradiction
  | text content =>
      rw [valueText, if_neg (by simpa using other)] at failed
      contradiction
  | _ => exact failed

/-- The file type is written as the code for its key. -/
theorem valueText_format {key code : String}
    (found : Vocabulary.outputFileTypes.word? key = some code) :
    valueText "outputFileType" (.text key) = .ok code := by
  rw [valueText, if_pos (beq_self_eq_true _), found]

section Formats

variable {object : Object} (named : object.className = "ImageOptions") {key code : String}
  (given : object.value? "outputFileType" = some (.text key))
  (found : Vocabulary.outputFileTypes.word? key = some code)
include named given found

/-- The code of the format stands in its line. -/
theorem write_format {written : String} (there : write object = .ok written) :
    ∃ above below, written =
      String.join (above ++ ("Output_File_Type=" ++ code ++ "\n") :: below) := by
  have listed : ("outputFileType", "Output_File_Type") ∈ keys := by decide
  obtain ⟨_, _, split⟩ := List.append_of_mem listed
  rw [write, requireOwn_ok named, split, settings_append] at there
  obtain ⟨_, _, there⟩ := ok_of_bind there
  obtain ⟨lines, all, there⟩ := ok_of_bind there
  obtain rfl := Except.ok.inj there
  obtain ⟨above, _, all⟩ := ok_of_bind all
  obtain ⟨rest, behind, all⟩ := ok_of_bind all
  obtain rfl := Except.ok.inj all
  rw [settings, given] at behind
  obtain ⟨text, shown, behind⟩ := ok_of_bind behind
  obtain ⟨below, _, behind⟩ := ok_of_bind behind
  obtain rfl := Except.ok.inj ((valueText_format found).symm.trans shown)
  obtain rfl := Except.ok.inj behind
  exact ⟨above, below, rfl⟩

/-- The format never fails. -/
theorem write_error {error : SceneError} (failed : write object = .error error) :
    ∃ entry ∈ keys, entry.1 ≠ "outputFileType" ∧ ∃ value, object.value? entry.1 = some value ∧
      value.verbatimText = .error error := by
  have settled : settings object keys = .error error := by
    rw [write, requireOwn_ok named] at failed
    cases lines : settings object keys with
    | error first =>
        rw [lines] at failed
        rw [Except.error.inj failed]
    | ok texts =>
        rw [lines] at failed
        contradiction
  obtain ⟨entry, member, value, stored, here⟩ := exists_of_settings_error settled
  have other : entry.1 ≠ "outputFileType" := by
    intro format
    rw [format] at stored here
    obtain rfl := Option.some.inj (given.symm.trans stored)
    rw [valueText_format found] at here
    contradiction
  exact ⟨entry, member, other, value, stored, verbatimText_of_valueText_error other here⟩

end Formats

end RenderOptions

/-! Formulas of fractals. -/

namespace Layout

/-- A text without the mark is all that stands in front of the first one. -/
theorem splitAtFirst_append {mark : Char} {base : List Char} (free : mark ∉ base)
    (ending : List Char) : splitAtFirst? mark (base ++ mark :: ending) = some (base, ending) := by
  have others : ∀ c ∈ base, (c != mark) = true := by
    intro c member
    rw [bne_iff_ne]
    rintro rfl
    exact free member
  rw [splitAtFirst?, if_pos (by simp), List.takeWhile_append_of_pos others,
    List.dropWhile_append_of_pos others]
  simp

/-- A formula falls apart at its first colon. -/
theorem splitAtFirst_formula {algebra : String} (free : ':' ∉ algebra.toList)
    (function : String) :
    splitAtFirst? ':' (algebra ++ ":" ++ function).toList =
      some (algebra.toList, function.toList) := by
  rw [String.toList_append, String.toList_append, List.append_assoc]
  exact splitAtFirst_append free function.toList

/-- All formulas name an algebra and a function. -/
theorem juliaFractalTypes_split : ∀ kind ∈ Vocabulary.juliaFractalTypes,
    ∃ algebra function : String, kind = algebra ++ ":" ++ function ∧ ':' ∉ algebra.toList := by
  have colons : ∀ kind ∈ Vocabulary.juliaFractalTypes, ':' ∈ kind.toList := by
    decide +kernel
  intro kind member
  obtain ⟨algebra, function, split, free⟩ := List.eq_append_cons_of_mem (colons kind member)
  refine ⟨String.ofList algebra, String.ofList function, ?_, by simpa using free⟩
  rw [← String.toList_inj, split]
  simp

/-- The algebra stands in a line of its own, and the function in the next one. -/
theorem juliaFormula_ok {writer : NodeWriter} {object : Object} {algebra function : String}
    (given : object.value? "type" = some (.text (algebra ++ ":" ++ function)))
    (free : ':' ∉ algebra.toList) {lines : List String}
    (there : juliaFormula writer object = .ok lines) :
    ∃ call, lines = [algebra, call] ∧
      (call = function ∨ function = "pwr" ∧ ∃ exponents, call = "pwr " ++ exponents) := by
  unfold juliaFormula at there
  generalize (object.value? "power").bind Value.asVector? = power at there
  simp only [Object.required, given, Value.asText?, Option.bind_some, splitAtFirst_formula free,
    bind, Except.bind, String.ofList_toList] at there
  obtain rfl := Except.ok.inj there
  refine ⟨_, rfl, ?_⟩
  split
  · exact .inr ⟨rfl, _, rfl⟩
  · exact .inl rfl

end Layout

theorem imageOptions_format : ∃ rule,
    Catalog.imageOptionsClass.declaration? "outputFileType" =
        some (Catalog.imageOptions, .mutable rule) ∧
      rule.validator = some (.check (.key Vocabulary.outputFileTypes)) :=
  ⟨_, rfl, rfl⟩

theorem juliaFractal_formula : ∃ rule,
    Catalog.juliaFractalClass.declaration? "type" =
        some (Catalog.juliaFractal, .mutable rule) ∧
      rule.validator = some (.check (.oneOf Vocabulary.juliaFractalTypes)) :=
  ⟨_, rfl, rfl⟩

namespace Object

/-- What an object of a class in the catalog stores for an attribute of the class. -/
theorem Reached.reads {object : Object} (reached : object.Reached) {cls : Class}
    (known : catalog.class? object.className = some cls) {name : String} {table : ClassTable}
    {rule : Attribute} (declared : cls.declaration? name = some (table, .mutable rule))
    {value : Value} (given : object.slot? name = some (.literal value)) :
    object.value? name = some value ∧ rule.Settles (.literal value) := by
  obtain ⟨other, found, made⟩ := reached
  obtain rfl := Option.some.inj (known.symm.trans found)
  exact made.value_of_slot known declared given

/-- A key that is stored for a type of cameras, splines, prisms or sweeps or of a font is written as
the word that its vocabulary has for it, and a format of images as its code, which never fails. A
formula that is stored for a fractal is split into its algebra and its function. -/
theorem words_found {object : Object} (reached : object.Reached) {value : Value} :
    (∀ wording ∈ Wording.all, object.className = wording.own.name →
      object.slot? wording.name = some (.literal value) →
      ∃ keyword ∈ wording.vocabulary, value = .text keyword.key ∧
        wording.vocabulary.word? keyword.key = some keyword.word ∧
        ∀ stops written, object.sceneText stops = .ok written →
          ∃ comment more body, wording.Follows keyword.word more ∧
            written = (Markup.block comment (wording.layout.keyword object)
              (.line (keyword.word ++ more) :: body)).write stops) ∧
    (object.className = "ImageOptions" →
      object.slot? "outputFileType" = some (.literal value) →
      ∃ keyword ∈ Vocabulary.outputFileTypes, value = .text keyword.key ∧
        Vocabulary.outputFileTypes.word? keyword.key = some keyword.word ∧
        (∀ written, RenderOptions.write object = .ok written → ∃ above below,
          written = String.join
            (above ++ ("Output_File_Type=" ++ keyword.word ++ "\n") :: below)) ∧
        ∀ error, RenderOptions.write object = .error error →
          ∃ entry ∈ RenderOptions.keys, entry.1 ≠ "outputFileType" ∧
            ∃ other, object.value? entry.1 = some other ∧ other.verbatimText = .error error) ∧
    (object.className = "JuliaFractal" → object.slot? "type" = some (.literal value) →
      ∃ algebra function : String, value = .text (algebra ++ ":" ++ function) ∧
        ':' ∉ algebra.toList ∧ algebra ++ ":" ++ function ∈ Vocabulary.juliaFractalTypes ∧
        ∀ stops written, object.sceneText stops = .ok written →
          ∃ comment parameter call body,
            (call = function ∨ function = "pwr" ∧ ∃ exponents, call = "pwr " ++ exponents) ∧
            written = (Markup.block comment "julia_fractal"
              (.line parameter :: .line algebra :: .line call :: body)).write stops) := by
  refine ⟨?wordings, ?formats, ?formulas⟩
  case wordings =>
    intro wording listed named given
    obtain ⟨known, rule, declared, ruled⟩ := Wording.ruled wording listed
    obtain ⟨laid, _, _, begins⟩ := Wording.laid wording listed
    rw [← named] at known laid
    obtain ⟨read, settles⟩ := reached.reads known declared given
    obtain ⟨keyword, member, rfl, found⟩ := settles.keyword ruled
    refine ⟨keyword, member, rfl, found, ?_⟩
    intro stops written there
    obtain ⟨comment, above, below, first, rfl⟩ := sceneText_begins laid begins there
    obtain ⟨more, rfl, follows⟩ := Wording.opens wording listed _ _ _ _ _ read found first
    exact ⟨comment, more, below, follows, rfl⟩
  case formats =>
    intro named given
    obtain ⟨rule, declared, ruled⟩ := imageOptions_format
    obtain ⟨read, settles⟩ := reached.reads (named ▸ catalog_imageOptions) declared given
    obtain ⟨keyword, member, rfl, found⟩ := settles.keyword ruled
    exact ⟨keyword, member, rfl, found, fun _ => RenderOptions.write_format named read found,
      fun _ => RenderOptions.write_error named read found⟩
  case formulas =>
    intro named given
    obtain ⟨rule, declared, ruled⟩ := juliaFractal_formula
    obtain ⟨read, settles⟩ := reached.reads (named ▸ catalog_juliaFractal) declared given
    obtain ⟨kind, member, rfl⟩ := settles.choice ruled
    obtain ⟨algebra, function, rfl, free⟩ := Layout.juliaFractalTypes_split kind member
    refine ⟨algebra, function, rfl, free, member, ?_⟩
    intro stops written there
    have found : Layout.ofClass? object.className = some Layout.juliaFractal := by
      rw [named]
      rfl
    obtain ⟨comment, body, entries, _, rfl⟩ := sceneText_ok found there
    obtain ⟨_, _, first, later, rfl⟩ := Clause.writeAll_cons_ok entries
    obtain ⟨parameter, rfl⟩ := Clause.line_ok first
    obtain ⟨_, below, second, _, rfl⟩ := Clause.writeAll_cons_ok later
    obtain ⟨lines, composed, rfl⟩ := ok_of_map second
    obtain ⟨call, rfl, shape⟩ := Layout.juliaFormula_ok read free composed
    exact ⟨comment, parameter, call, below, shape, rfl⟩

/-- A camera with a wide angle. -/
def wide : Object := Catalog.cameraClass.run Catalog.cameraClass.blank [
  .set "type" (.literal (.text "ultraWideAngle"))]

/-- Options that ask for a compressed image. -/
def compressed : Object := Catalog.imageOptionsClass.run Catalog.imageOptionsClass.blank [
  .set "outputFileType" (.literal (.text "targaCompressed"))]

/-- A fractal of squares. -/
def squares : Object := Catalog.juliaFractalClass.run Catalog.juliaFractalClass.blank [
  .set "type" (.literal (.text "quaternion:sqr")), .set "juliaParam" (.raw "<0, 0, 0, 0>")]

/-- A camera, image options and a fractal that find their words. -/
theorem words_found_wide :
    (wide.Reached ∧ wide.className = "Camera" ∧
      wide.slot? "type" = some (.literal (.text "ultraWideAngle")) ∧
      ∃ comment more body, wide.sceneText 0 = .ok ((Markup.block comment "camera"
        (.line ("ultra_wide_angle" ++ more) :: body)).write 0)) ∧
    (compressed.Reached ∧ compressed.className = "ImageOptions" ∧
      compressed.slot? "outputFileType" = some (.literal (.text "targaCompressed")) ∧
      ∃ above below, RenderOptions.write compressed =
        .ok (String.join (above ++ "Output_File_Type=C\n" :: below))) ∧
    squares.Reached ∧ squares.className = "JuliaFractal" ∧
      squares.slot? "type" = some (.literal (.text "quaternion:sqr")) ∧
      ∃ comment parameter body, squares.sceneText 0 = .ok ((Markup.block comment "julia_fractal"
        (.line parameter :: .line "quaternion" :: .line "sqr" :: body)).write 0) := by
  have wideReached : wide.Reached :=
    ⟨_, catalog_camera, _, _, .options SortedMap.empty rfl rfl, rfl⟩
  have compressedReached : compressed.Reached :=
    ⟨_, catalog_imageOptions, _, _, .options SortedMap.empty rfl rfl, rfl⟩
  have squaresReached : squares.Reached :=
    ⟨_, catalog_juliaFractal, _, _, .options SortedMap.empty rfl rfl, rfl⟩
  refine ⟨⟨wideReached, rfl, rfl, ?_⟩, ⟨compressedReached, rfl, rfl, ?_⟩,
    squaresReached, rfl, rfl, ?_⟩
  · obtain ⟨written, there⟩ := exists_sceneText (by decide : wide.markup.isOk = true) 0
    obtain ⟨keyword, _, same, found, begins⟩ :=
      (words_found wideReached).1 _ (.head _) rfl rfl
    obtain ⟨comment, more, body, _, rfl⟩ := begins 0 written there
    rw [← Value.text.inj same] at found
    have word : keyword.word = "ultra_wide_angle" := (Option.some.inj found).symm
    rw [word] at there
    exact ⟨comment, more, body, there⟩
  · obtain ⟨written, there⟩ : ∃ written, RenderOptions.write compressed = .ok written :=
      exists_of_isOk (by decide +kernel)
    obtain ⟨keyword, _, same, found, lines, _⟩ := (words_found compressedReached).2.1 rfl rfl
    obtain ⟨above, below, rfl⟩ := lines written there
    rw [← Value.text.inj same] at found
    have word : keyword.word = "C" := (Option.some.inj found).symm
    rw [word] at there
    exact ⟨above, below, there⟩
  · obtain ⟨written, there⟩ := exists_sceneText (by decide : squares.markup.isOk = true) 0
    obtain ⟨algebra, function, same, free, _, begins⟩ := (words_found squaresReached).2.2 rfl rfl
    obtain ⟨comment, parameter, call, body, shape, rfl⟩ := begins 0 written there
    have parts : some ("quaternion".toList, "sqr".toList) =
        some (algebra.toList, function.toList) := by
      rw [← Layout.splitAtFirst_formula free function, ← Value.text.inj same]
      decide
    obtain ⟨left, right⟩ := Prod.mk.inj (Option.some.inj parts)
    obtain rfl := String.toList_inj.1 left
    obtain rfl := String.toList_inj.1 right
    rcases shape with rfl | ⟨power, _⟩
    · exact ⟨comment, parameter, body, there⟩
    · contradiction

end Object

end SceneCatalog
