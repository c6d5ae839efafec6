import SceneCatalog.Proofs.Scene.Balance
import SceneCatalog.Proofs.Scene.Bodies
import SceneCatalog.Proofs.Scene.Coverage

/-
This file shows that the block of a combination of objects is put together from the texts of its
components.
-/

namespace SceneCatalog

open Markup

/-- The objects of a value that is an object or a list of objects. -/
def Value.objects? : Value → Option (List Object)
  | node _ object => some [object]
  | list items => items.mapM asObject?
  | _ => none

/-- A class of objects that are made of other objects: what its blocks write in front of the
components, the attributes that hold these, and what stands behind them. -/
structure Combination where
  className : String
  keyword : String
  settings : List (String × String) := []
  componentNames : List String := ["components"]
  trailing : List Clause := []

def combinations : List Combination := [
  { className := "Blob", keyword := "blob", settings := [("threshold", "threshold")],
    trailing := Layout.solver },
  { className := "Difference", keyword := "difference",
    componentNames := ["positiveComponent", "negativeComponents"] },
  { className := "Intersection", keyword := "intersection" },
  { className := "Merge", keyword := "merge" },
  { className := "Mesh", keyword := "mesh", componentNames := ["triangles"],
    trailing := [.setting "insideVector" "inside_vector", Layout.hierarchy] },
  { className := "Union", keyword := "union",
    trailing := [.switchedOff "splitUnion" "split_union off"] }]

section Parts

variable {writer : NodeWriter}

/-- The objects of a list are written one by one. -/
theorem bodyOfItems_eq {items : List Value} {objects : List Object}
    (found : items.mapM Value.asObject? = some objects) :
    (Value.bodyOfItems writer items).toExcept = objects.mapM writer := by
  have pairs := mapM_some_iff.1 found
  clear found
  induction pairs with
  | nil => rfl
  | @cons item object rest others here _ inductionHypothesis =>
      cases item with
      | node identity child =>
          obtain rfl := Option.some.inj here
          rw [Value.bodyOfItems, Body.toExcept_append, inductionHypothesis, Value.body,
            Body.toExcept_ofExcept, List.mapM_cons]
          cases writer child <;> rfl
      | _ => contradiction

/-- A list of objects is written as the blocks of the objects. -/
theorem Value.body_eq {value : Value} {objects : List Object}
    (found : value.objects? = some objects) (filled : objects ≠ []) :
    (value.body writer).toExcept = objects.mapM writer := by
  cases value with
  | node identity object =>
      obtain rfl := Option.some.inj found
      rw [Value.body, Body.toExcept_ofExcept, List.mapM_cons, List.mapM_nil]
      cases writer object <;> rfl
  | list items =>
      have nodes : items.any Value.isNode = true := by
        obtain ⟨object, member⟩ := List.exists_mem_of_ne_nil objects filled
        obtain ⟨item, itemMember, here⟩ := exists_of_forall₂_right (mapM_some_iff.1 found) member
        refine List.any_eq_true.2 ⟨item, itemMember, ?_⟩
        cases item with
        | node => rfl
        | _ => contradiction
      rw [Value.body, if_pos nodes]
      exact bodyOfItems_eq found
  | _ => contradiction

/-- What is made of objects and is no code has its objects. -/
theorem Value.Parts.exists_objects {value : Value} (parts : value.Parts)
    (literal : ∀ code, value ≠ .code code) :
    ∃ objects, value.objects? = some objects ∧ objects ≠ [] := by
  cases parts with
  | code content => exact absurd rfl (literal content)
  | node identity object => exact ⟨[object], rfl, List.cons_ne_nil _ _⟩
  | @list items some each =>
      have nodes : ∀ item ∈ items, ∃ object, item.asObject? = .some object := by
        intro item member
        obtain ⟨identity, object, rfl⟩ := Value.isNode_iff.1 (each item member)
        exact ⟨object, rfl⟩
      obtain ⟨objects, pairs⟩ := exists_forall₂ nodes
      refine ⟨objects, mapM_some_iff.2 pairs, ?_⟩
      rintro rfl
      exact some (List.forall₂_nil_right_iff.1 pairs)

/-- A check for lists of components accepts no raw code. -/
theorem Check.accepts_code_eq_false {check : Check} (takes : check.takesPartsOnly = true)
    (code : String) : check.accepts (.code code) = false := by
  cases check <;> first | rfl | contradiction

end Parts

/-- An attribute without objects is written if it is set. -/
theorem Clause.setting_ok {holds : List Char → Prop} (formal : Text.Formal holds) {cls : Class}
    {object : Object} (legible : object.Legible holds cls) (writer : NodeWriter)
    {name keyword : String} (text : cls.readsText name = true) (word : Phrase holds keyword) :
    ∃ entries, (setting name keyword).write writer object = .ok entries := by
  have shown (value : Value) (textual : value.Textual holds) :
      Gives (Phrase holds) ((value.verbatim writer).map (keyword ++ " " ++ ·)) := by
    apply (textual.verbatim formal writer).map
    exact fun content held => formal.beside (formal.beside word (formal.words rfl)) held
  obtain ⟨entries, there, _⟩ := ifSet_gives legible text shown
  exact ⟨entries, there⟩

namespace Combination

variable (shape : Combination)

/-- The clauses in front of the components. -/
def leading : List Clause := shape.settings.map fun setting => .setting setting.1 setting.2

def layout : Layout :=
  .material shape.keyword (shape.leading ++ shape.componentNames.map .parts ++ shape.trailing)

/-- The components of an object in the order in which they are written. -/
def components? (object : Object) : Option (List Object) :=
  (shape.componentNames.mapM fun name => (object.value? name).bind Value.objects?).map List.flatten

/-- The attributes for components take objects only and are all that the class requires, and those
in front of them take none. -/
def suits (cls : Class) : Bool :=
  shape.settings.all (fun setting => cls.readsText setting.1) &&
  shape.componentNames.all cls.readsParts && !shape.componentNames.isEmpty &&
  cls.own.required.all fun rule => shape.componentNames.contains rule.name

end Combination

/-- The catalog has every combination with the attributes its shape speaks of. -/
theorem combinations_suit : (combinations.all fun shape =>
    (catalog.class? shape.className).all shape.suits) = true := by
  decide +kernel

/-- The layout of each combination is the one of its shape. -/
theorem combinations_laid : ∀ shape ∈ combinations,
    Layout.ofClass? shape.className = some shape.layout := by
  simp only [combinations, List.forall_mem_cons]
  exact ⟨rfl, rfl, rfl, rfl, rfl, rfl, List.forall_mem_nil _⟩

/-- A literal of an attribute for objects has objects. -/
theorem Class.Reachable.exists_objects {className : String} {cls : Class}
    (known : catalog.class? className = some cls) {object : Object} (reached : cls.Reachable object)
    {name : String} (parts : cls.readsParts name = true) {value : Value}
    (stored : object.slot? name = some (.literal value)) :
    ∃ objects, (object.value? name).bind Value.objects? = some objects ∧ objects ≠ [] := by
  obtain ⟨rule, ruled, takes⟩ := (Option.any_eq_true _ _).1 parts
  obtain ⟨table, declared⟩ := Class.declaration_of_rule ruled
  obtain ⟨read, settles⟩ := reached.value_of_slot known declared stored
  rw [read, Slot.read, Option.bind_some]
  cases settles with
  | @literal validator _ applies fixed =>
      rw [applies] at takes
      cases validator with
      | check condition =>
          have accepted := Validator.accepts_of_fixed fixed
          apply (Check.parts_of_accepts takes accepted).exists_objects
          rintro code rfl
          rw [Check.accepts_code_eq_false takes code] at accepted
          contradiction
      | _ => contradiction

/-- The objects of several attributes are written as those of one. -/
theorem Clause.writeAll_parts {object : Object} {names : List String} {groups : List (List Object)}
    (held : List.Forall₂ (fun name objects =>
      (object.value? name).bind Value.objects? = some objects ∧ objects ≠ []) names groups)
    (writer : NodeWriter) :
    writeAll writer object (names.map .parts) = groups.flatten.mapM writer := by
  induction held with
  | nil => rfl
  | @cons name objects names groups here _ inductionHypothesis =>
      obtain ⟨value, found, objectsFound⟩ := Option.bind_eq_some_iff.1 here.1
      have written : (Clause.parts name).write writer object = objects.mapM writer := by
        rw [write, Object.required, found, ← Value.body_eq objectsFound here.2]
        rfl
      rw [List.map_cons, writeAll, written, inductionHypothesis, List.flatten_cons,
        List.mapM_append]

namespace Object

section Written

variable {shape : Combination} (listed : shape ∈ combinations) {object : Object}
  (named : object.className = shape.className) (built : object.Built)
  (literal : ∀ name ∈ shape.componentNames, ∃ value, object.slot? name = some (.literal value))
include listed named built literal

/-- The components of a combination are written between what stands in front of them and what
stands behind them. -/
theorem markup_combination :
    ∃ components above, shape.components? object = some components ∧ components ≠ [] ∧
      Clause.writeAll markup object shape.leading = .ok above ∧
      object.markup = (do
        let blocks ← components.mapM markup
        let below ← Clause.writeAll markup object (shape.trailing ++ Layout.modifiers)
        return .block ((object.value? "id").bind Value.asText?) shape.keyword
          (above ++ blocks ++ below)) := by
  obtain ⟨cls, known, reached⟩ := built.known
  have suits := List.all_eq_true.1 combinations_suit shape listed
  rw [← named, known, Option.all_some, Combination.suits] at suits
  simp only [Bool.and_eq_true, List.all_eq_true, Bool.not_eq_true', List.isEmpty_eq_false_iff]
    at suits
  obtain ⟨⟨⟨settings, parts⟩, filled⟩, required⟩ := suits
  have found : Layout.ofClass? object.className = some shape.layout :=
    named ▸ combinations_laid shape listed
  obtain ⟨groups, held⟩ := exists_forall₂ fun name member => by
    obtain ⟨value, stored⟩ := literal name member
    exact reached.exists_objects known (parts name member) stored
  obtain ⟨above, leading⟩ : ∃ above, Clause.writeAll markup object shape.leading = .ok above := by
    have legible : object.Legible (fun _ => True) cls :=
      built.toMade.legible known fun _ _ => trivial
    have each : ∀ clause ∈ shape.leading, ∃ entries, clause.write markup object = .ok entries := by
      intro clause member
      obtain ⟨setting, settingMember, rfl⟩ := List.mem_map.1 member
      exact Clause.setting_ok Text.blockwise_any.toFormal legible markup
        (settings setting settingMember) trivial
    obtain ⟨entries, there⟩ := mapM_isOk_iff.2 each
    exact ⟨entries.flatten, by rw [Clause.writeAll_eq, there]; rfl⟩
  have components : shape.components? object = some groups.flatten := by
    rw [Combination.components?, mapM_some_iff.2 (held.imp fun _ _ both => both.1)]
    rfl
  have own : object.requireOwn = .ok () := by
    apply requireOwn_of_set known
    intro rule member
    obtain ⟨objects, _, here⟩ := exists_of_forall₂_right held.flip
      (by simpa using required rule member)
    obtain ⟨value, there, _⟩ := Option.bind_eq_some_iff.1 here.1
    rw [there, Option.isSome_some]
  refine ⟨groups.flatten, above, components, ?_, leading, ?_⟩
  · obtain ⟨name, rest, names⟩ := List.exists_cons_of_ne_nil filled
    rw [names] at held
    obtain ⟨objects, others, here, _, rfl⟩ := List.forall₂_cons_left_iff.1 held
    rw [List.flatten_cons]
    exact List.append_ne_nil_of_left_ne_nil here.2 _
  · rw [markup_material found, own, List.append_assoc, List.append_assoc, Clause.writeAll_append,
      Clause.writeAll_append, leading, Clause.writeAll_parts held,
      built.textIfSet_id (Layout.mem_of_ofClass found)]
    cases groups.flatten.mapM markup with
    | error error => rfl
    | ok blocks =>
        cases Clause.writeAll markup object (shape.trailing ++ Layout.modifiers) with
        | error error => rfl
        | ok below => exact congrArg Except.ok (by rw [List.append_assoc])

/-- The text of a combination that has literal components is put together from their texts, which
stand one below the other and are indented by one stop more. The first component that has no text
decides the error. -/
theorem sceneText_combination (stops : Nat) :
    ∃ components above, shape.components? object = some components ∧
      Clause.writeAll markup object shape.leading = .ok above ∧
      object.sceneText stops = (do
        let texts ← components.mapM (·.sceneText (stops + 1))
        let below ← Clause.writeAll markup object (shape.trailing ++ Layout.modifiers)
        return inBraces stops ((object.value? "id").bind Value.asText?) shape.keyword
          (writeAll (stops + 1) above ++ texts ++ writeAll (stops + 1) below)) ∧
      ∀ before failing after error, components = before ++ failing :: after →
        (∀ earlier ∈ before, ∃ text, earlier.sceneText (stops + 1) = .ok text) →
        failing.sceneText (stops + 1) = .error error → object.sceneText stops = .error error := by
  obtain ⟨components, above, found, filled, leading, block⟩ :=
    markup_combination listed named built literal
  refine ⟨components, above, found, leading, (and_iff_left_of_imp ?_).2 ?_⟩
  · intro whole before failing after error order earlier failed
    rw [whole, mapM_error_iff.2 ⟨before, failing, after, order, earlier, failed⟩]
    rfl
  · have texts : components.mapM (·.sceneText (stops + 1)) =
        (components.mapM markup).map (List.map (·.write (stops + 1))) :=
      mapM_map_eq markup (·.write (stops + 1)) components
    rw [sceneText, block, texts]
    cases made : components.mapM markup with
    | error error => rfl
    | ok blocks =>
        have some : above ++ blocks ≠ [] := by
          apply List.append_ne_nil_of_right_ne_nil
          rintro rfl
          exact filled (List.forall₂_nil_right_iff.1 (mapM_ok_iff.1 made))
        cases Clause.writeAll markup object (shape.trailing ++ Layout.modifiers) with
        | error error => rfl
        | ok below =>
            have body : write stops (.block ((object.value? "id").bind Value.asText?) shape.keyword
                  (above ++ blocks ++ below)) =
                inBraces stops ((object.value? "id").bind Value.asText?) shape.keyword
                  (writeAll (stops + 1) above ++ blocks.map (·.write (stops + 1)) ++
                    writeAll (stops + 1) below) := by
              rw [write_block_of_ne_nil (List.append_ne_nil_of_left_ne_nil some _),
                writeAll_append, writeAll_append, writeAll_eq_map (stops + 1) blocks]
            exact congrArg Except.ok body

end Written

end Object

def Catalog.differenceClass : Class := ⟨difference, [primitive]⟩

theorem catalog_difference : catalog.class? "Difference" = some Catalog.differenceClass :=
  Catalog.class_of_primitive (by rfl) rfl (by decide)

namespace Object

/-- A ball with the merge and the ball itself cut out. -/
def carved : Object := Catalog.differenceClass.run Catalog.differenceClass.blank [
  .set "positiveComponent" (.literal (.node 1 ball)),
  .set "negativeComponents" (.literal (.list [.node 2 merged, .node 1 ball]))]

/-- The positive component stands first, and there are no modifiers. -/
theorem sceneText_combination_carved :
    ∃ shape ∈ combinations, carved.className = shape.className ∧ carved.Built ∧
      (∀ name ∈ shape.componentNames, ∃ value, carved.slot? name = some (.literal value)) ∧
      ∃ first second, ball.sceneText 2 = .ok first ∧ merged.sceneText 2 = .ok second ∧
        carved.sceneText 1 = .ok (inBraces 1 none "difference" [first, second, first]) := by
  have listed : (⟨"Difference", "difference", [], ["positiveComponent", "negativeComponents"], []⟩ :
      Combination) ∈ combinations :=
    .tail _ (.head _)
  have built : carved.Built :=
    ⟨.of_run _ catalog_difference rfl rfl (by decide +kernel), rfl⟩
  have literal : ∀ name ∈ ["positiveComponent", "negativeComponents"],
      ∃ value, carved.slot? name = some (.literal value) := by
    rw [List.forall_mem_cons, List.forall_mem_singleton]
    exact ⟨⟨_, rfl⟩, _, rfl⟩
  obtain ⟨first, firstText⟩ := exists_sceneText (by decide +kernel : ball.markup.isOk = true) 2
  obtain ⟨second, secondText⟩ := merged_text 2
  refine ⟨_, listed, rfl, built, literal, first, second, firstText, secondText, ?_⟩
  obtain ⟨components, above, found, leading, whole, _⟩ :=
    sceneText_combination listed rfl built literal 1
  obtain rfl : [ball, merged, ball] = components := Option.some.inj found
  obtain rfl : [] = above := Except.ok.inj leading
  have bare : Clause.writeAll markup carved ([] ++ Layout.modifiers) = .ok [] := rfl
  have unnamed : carved.value? "id" = none := rfl
  rw [whole, bare, unnamed]
  simp only [List.mapM_cons, List.mapM_nil, firstText, secondText]
  rfl

end Object

end SceneCatalog
