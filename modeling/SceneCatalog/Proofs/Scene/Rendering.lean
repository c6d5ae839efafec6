import SceneCatalog.Proofs.Scene.Layouts

/-
This file shows that an object is written exactly when it is complete, and that what is written is
sound.
-/

namespace SceneCatalog

open Markup Text

namespace Section

/-- A section needs what the class requires and writes the objects of its parts. Only area lights
have a section with further needs. -/
def accounts (cls : Class) : Section → Bool
  | always clauses => clauses.all fun clause =>
    clause.needs.all cls.requires && clause.partNames.all (Object.renderedNames cls.name).contains
  | whileOn switch clauses => cls.name == "LightSource" && switch == "areaLight" &&
    clauses.all fun clause => clause.needs.all Object.areaNames.contains && clause.partNames.isEmpty
  | blockWhileOn _ _ _ => false

/-- The clauses that are always in the block. -/
def standing : Section → List Clause
  | always clauses => clauses
  | _ => []

/-- The clauses that a flag puts into the block. -/
def switchedBy (flag : String) : Section → List Clause
  | whileOn switch clauses => if switch == flag then clauses else []
  | _ => []

/-- In a section that is ready, what always stands is ready. -/
theorem Ready.standing {complete : Object → Prop} {object : Object} {part : Section}
    (ready : part.Ready complete object) {clause : Clause} (member : clause ∈ part.standing) :
    clause.Ready complete object := by
  cases part with
  | always clauses => exact ready trivial clause member
  | _ => contradiction

/-- In a section that is ready, what is switched on is ready. -/
theorem Ready.switched {complete : Object → Prop} {object : Object} {part : Section}
    (ready : part.Ready complete object) {flag : String} (on : object.flag? flag = some true)
    {clause : Clause} (member : clause ∈ part.switchedBy flag) : clause.Ready complete object := by
  cases part with
  | whileOn switch clauses =>
      rw [switchedBy] at member
      split at member
      · rename_i same
        exact ready (by rw [Section.Active, eq_of_beq same, on]) clause member
      · contradiction
  | _ => contradiction

end Section

theorem Layout.mem_of_ofClass {className : String} {layout : Layout}
    (found : Layout.ofClass? className = some layout) : (className, layout) ∈ Layout.ofObjects := by
  obtain ⟨entry, entryFound, rfl⟩ := Option.map_eq_some_iff.1 found
  have named : entry.1 = className := by simpa using List.find?_some entryFound
  exact named ▸ List.mem_of_find?_eq_some entryFound

/-- The block needs nothing else, and always writes the parts that are rendered. -/
def Layout.accounts (layout : Layout) (cls : Class) : Bool :=
  layout.sections.all (·.accounts cls) && (Object.renderedNames cls.name).all fun name =>
    (layout.sections.flatMap Section.standing).any (·.partNames.contains name)

/-- Area lights and sweeps have the needs that are special to them. -/
def Layout.accountsSpecial (layout : Layout) (cls : Class) : Bool :=
  (cls.name != "LightSource" || Object.areaNames.all fun name =>
    (layout.sections.flatMap (·.switchedBy "areaLight")).any (·.needs.contains name)) &&
  (cls.name != "SphereSweep" || (layout.sections.flatMap Section.standing).any Clause.composes)

/-- Every layout needs what its class requires, which is checked over all of them. -/
theorem layouts_account : (Layout.ofObjects.all fun entry =>
    (catalog.class? entry.1).any fun cls => entry.2.accounts cls) = true := by
  decide

/-- Area lights and sweeps account for the needs that are special to them. -/
theorem layouts_accountSpecial : (Layout.ofObjects.all fun entry =>
    (catalog.class? entry.1).any fun cls => entry.2.accountsSpecial cls) = true := by
  decide

/-- A class begins with the table of its name. -/
theorem Catalog.find_of_class {tables : Catalog} {name : String} {cls : Class}
    (known : tables.class? name = some cls) : tables.find? name = some cls.own := by
  rw [class?] at known
  split at known
  · contradiction
  · rename_i own ancestors line
    obtain rfl := Option.some.inj known
    exact climb_head line

theorem Object.flag_on_iff {object : Object} {name : String} :
    object.flag? name = some true ↔ object.value? name = some (.bool true) := by
  rw [flag?, Option.bind_eq_some_iff]
  constructor
  · rintro ⟨value, found, on⟩
    cases value with
    | bool flag => rw [found, Option.some.inj on]
    | _ => contradiction
  · intro found
    exact ⟨_, found, rfl⟩

section Complete

variable {object : Object} {cls : Class} {layout : Layout}

/-- Every section of a complete object is ready. -/
theorem Section.ready_of_complete (named : cls.name = object.className)
    (required : ∀ rule ∈ cls.own.required, (object.value? rule.name).isSome)
    (complete : object.Complete) {part : Section} (accounts : part.accounts cls = true) :
    part.Ready Object.Complete object := by
  cases complete with
  | intro _ area swept parts =>
      intro active clause member
      cases part with
      | always clauses =>
          rw [Section.accounts, List.all_eq_true] at accounts
          obtain ⟨needs, rendered⟩ := Bool.and_eq_true_iff.1 (accounts clause member)
          rw [List.all_eq_true] at needs rendered
          refine ⟨fun name needed => set_of_requires required (needs name needed), ?_,
            fun _ => swept⟩
          intro name partName
          exact parts name (by simpa [named] using rendered name partName)
      | whileOn switch clauses =>
          simp only [Section.accounts, Bool.and_eq_true, beq_iff_eq, List.all_eq_true] at accounts
          obtain ⟨⟨light, rfl⟩, each⟩ := accounts
          obtain ⟨needs, noParts⟩ := each clause member
          have on := Object.flag_on_iff.1 active
          refine ⟨?_, ?_, fun _ => swept⟩
          · intro name needed
            exact area (named ▸ light) on name (by simpa using needs name needed)
          · rw [List.isEmpty_iff.1 noParts]
            exact nofun
      | blockWhileOn _ _ _ => contradiction

/-- An object is complete when what its class requires is set and its block is ready. -/
theorem Object.complete_iff (known : catalog.class? object.className = some cls)
    (laid : (object.className, layout) ∈ Layout.ofObjects) :
    object.Complete ↔ (∀ rule ∈ cls.own.required, (object.value? rule.name).isSome) ∧
      ∀ part ∈ layout.sections, part.Ready Complete object := by
  have named : cls.name = object.className := (Catalog.class_known known).1
  have account := Layout.all_of_class Layout.accounts layouts_account laid known
  have special := Layout.all_of_class Layout.accountsSpecial layouts_accountSpecial laid known
  rw [Layout.accounts, Bool.and_eq_true, List.all_eq_true, List.all_eq_true] at account
  rw [Layout.accountsSpecial, Bool.and_eq_true, named] at special
  constructor
  · intro complete
    have ownRequired : ∀ rule ∈ cls.own.required, (object.value? rule.name).isSome := by
      cases complete with
      | intro required _ _ _ => exact required cls.own (Catalog.find_of_class known)
    exact ⟨ownRequired, fun part member =>
      Section.ready_of_complete named ownRequired complete (account.1 part member)⟩
  · rintro ⟨required, ready⟩
    refine .intro ?_ ?_ ?_ ?_
    · intro table found
      rw [Catalog.find_of_class known] at found
      exact Option.some.inj found ▸ required
    · intro light on name member
      have area := special.1
      rw [light, bne_self_eq_false, Bool.false_or, List.all_eq_true] at area
      obtain ⟨clause, inBlock, needed⟩ := List.any_eq_true.1 (area name member)
      obtain ⟨part, partMember, switched⟩ := List.mem_flatMap.1 inBlock
      have clauseReady := (ready part partMember).switched (Object.flag_on_iff.2 on) switched
      exact clauseReady.needs name (by simpa using needed)
    · intro sweep
      have composed := special.2
      rw [sweep, bne_self_eq_false, Bool.false_or] at composed
      obtain ⟨clause, inBlock, composes⟩ := List.any_eq_true.1 composed
      obtain ⟨part, partMember, standing⟩ := List.mem_flatMap.1 inBlock
      exact ((ready part partMember).standing standing).swept composes sweep
    · intro name member
      obtain ⟨clause, inBlock, partName⟩ := List.any_eq_true.1 (account.2 name (named ▸ member))
      obtain ⟨part, partMember, standing⟩ := List.mem_flatMap.1 inBlock
      exact ((ready part partMember).standing standing).parts name (by simpa using partName)

end Complete

/-- The attributes that the class requires come first. -/
theorem Object.requireOwn_delivers {object : Object} {cls : Class}
    (known : catalog.class? object.className = some cls) :
    Delivers (∀ rule ∈ cls.own.required, (object.value? rule.name).isSome)
      (fun _ => ∀ rule ∈ cls.own.required, (object.value? rule.name).isSome) object.requireOwn := by
  rw [requireOwn, Catalog.find_of_class known]
  dsimp only
  rw [ClassTable.require, ClassTable.missingRequired?]
  cases first : cls.own.required.find? fun rule => (object.value? rule.name).isNone with
  | none =>
      have set : ∀ rule ∈ cls.own.required, (object.value? rule.name).isSome := by
        simpa [Option.isSome_iff_ne_none] using List.find?_eq_none.1 first
      exact .delivered set set
  | some rule =>
      refine .missing fun set => ?_
      have unset := List.find?_some first
      have there := set rule (List.mem_of_find?_eq_some first)
      simp only [Option.isNone_iff_eq_none] at unset
      rw [unset] at there
      contradiction

/-- Keywords are made of small letters and underscores. -/
def Text.isWord (text : String) : Bool :=
  !text.toList.isEmpty && text.toList.all fun c => c.isLower || c == '_'

theorem Text.marks_of_isWord {text : String} (word : Text.isWord text = true) :
    marks text.toList = [] := by
  rw [Text.isWord, Bool.and_eq_true, List.all_eq_true] at word
  rw [marks_eq_nil_iff]
  intro c member
  have letter := word.2 c member
  rw [isMark_false_iff]
  refine ⟨?_, ?_, ?_⟩ <;> rintro rfl <;> contradiction

/-- Only triangles look at the object for their keyword. -/
theorem Layout.keyword_constant {className : String} {layout : Layout}
    (laid : (className, layout) ∈ Layout.ofObjects) :
    (className, layout) = ("Triangle", Layout.triangle) ∨
      ∀ object other, layout.keyword object = layout.keyword other := by
  have constant (object other : Object) :
      (Layout.ofObjects.eraseIdx 32).map (fun entry => entry.2.keyword object) =
        (Layout.ofObjects.eraseIdx 32).map fun entry => entry.2.keyword other := rfl
  have triangles : Layout.ofObjects[32]? = some ("Triangle", Layout.triangle) := rfl
  rcases mem_eraseIdx_or triangles laid with member | same
  · exact .inr fun object other => List.map_inj_left.1 (constant object other) _ member
  · exact .inl same

/-- The keyword of a block is a word, whatever the object holds. -/
theorem Layout.keyword_isWord {className : String} {layout : Layout}
    (laid : (className, layout) ∈ Layout.ofObjects) (object : Object) :
    Text.isWord (layout.keyword object) = true := by
  have words : (Layout.ofObjects.all fun entry =>
      Text.isWord (entry.2.keyword Catalog.cameraClass.blank)) = true := by
    decide
  rcases keyword_constant laid with same | constant
  · rw [(Prod.mk.inj same).2, Layout.triangle]
    dsimp only
    split <;> decide
  · have here := List.all_eq_true.1 words (className, layout) laid
    rwa [constant Catalog.cameraClass.blank object] at here

section Writing

variable {holds : List Char → Prop} (blockwise : Blockwise holds)
include blockwise

/-- One object is written if it lacks nothing and the objects that it holds are written. -/
theorem Object.writeAs_delivers {object : Object} (built : object.Built)
    (voiced : object.Voiced holds)
    (within : ∀ child, object.Holds child → child.Built ∧ child.Voiced holds) {layout : Layout}
    (laid : (object.className, layout) ∈ Layout.ofObjects) {writer : NodeWriter}
    (writes : ∀ child, object.Holds child →
      Delivers child.Complete (fun block => Sound holds [block]) (writer child)) :
    Delivers object.Complete (fun block => Sound holds [block]) (object.writeAs layout writer) := by
  obtain ⟨cls, known, _⟩ := built.known
  have suits := Layout.all_of_class (fun layout cls => layout.suits cls && cls.readsText "id")
    layouts_suit laid known
  rw [Bool.and_eq_true] at suits
  have legible := built.toMade.legible known voiced.strings
  have comment := textIfSet_gives legible suits.2 blockwise.toFormal writer
  have block := (object.requireOwn_delivers known).bind fun _ required =>
    Layout.write_delivers blockwise.toFormal legible suits.1
      (fun compose there => Layout.composer_delivers blockwise known required writer laid there
        built.toMade voiced fun child held => ⟨(within child held).1.toMade, (within child held).2⟩)
      writes (marks_of_isWord (Layout.keyword_isWord laid object)) comment
  exact block.congr (Object.complete_iff known laid).symm

/-- As deep as the objects are nested, all of them are written. -/
theorem Object.markupWithin_delivers {depth : Nat} {object : Object}
    (built : object.Everywhere Built) (voiced : object.Everywhere (Voiced holds))
    (deep : object.depth < depth) :
    Delivers object.Complete (fun block => Sound holds [block]) (object.markupWithin depth) := by
  induction depth generalizing object with
  | zero => exact absurd deep (Nat.not_lt_zero _)
  | succ depth inductionHypothesis =>
      obtain ⟨layout, found⟩ := Option.isSome_iff_exists.1 built.here.isNode
      rw [markupWithin, found]
      apply writeAs_delivers blockwise built.here voiced.here
        (fun child held => ⟨(built.within held).here, (voiced.within held).here⟩)
        (Layout.mem_of_ofClass found)
      intro child held
      have smaller := held.depth_lt
      exact inductionHypothesis (built.within held) (voiced.within held) (by omega)

/-- An object is written when it is complete, by induction on its depth. -/
theorem Object.markup_delivers {object : Object} (built : object.Everywhere Built)
    (voiced : object.Everywhere (Voiced holds)) :
    Delivers object.Complete (fun block => Sound holds [block]) object.markup :=
  markupWithin_delivers blockwise built voiced (Nat.lt_succ_self _)

end Writing

/-- The settings of a scene hold no objects and have no identifier. -/
theorem Object.settings_sound {holds : List Char → Prop} (formal : Formal holds) {settings : Object}
    (named : settings.className = "GlobalSettings") (made : settings.Made)
    (strings : ∀ content, settings.Mentions content → Phrase holds content) {writer : NodeWriter}
    {block : Markup} (written : settings.writeAs Layout.globalSettings writer = .ok block) :
    Sound holds [block] := by
  obtain ⟨cls, known, reached⟩ := made.known
  have here : catalog.class? "GlobalSettings" = some cls := named ▸ known
  have suits : Layout.globalSettings.suits cls = true := by
    simpa [here] using globalSettings_suits
  have plain := globalSettings_plain
  rw [here, Option.all_some, Bool.and_eq_true, List.all_eq_true, Option.isNone_iff_eq_none] at plain
  have comment : Gives (fun shown => ∀ content, shown = some content → Phrase holds content)
      (textIfSet writer settings "id") := by
    rw [textIfSet, reached.value_undeclared plain.2]
    exact .ok nofun
  have composed : ∀ compose ∈ Layout.globalSettings.composers,
      Delivers settings.Swept (Passage holds) (compose writer settings) := nofun
  have writes : ∀ child, settings.Holds child →
      Delivers child.Complete (fun block => Sound holds [block]) (writer child) :=
    fun child held => absurd held (made.holds_none known plain.1 child)
  have word : marks (Layout.globalSettings.keyword settings).toList = [] :=
    marks_of_isWord (by decide : Text.isWord "global_settings" = true)
  have body := (settings.requireOwn_delivers known).bind fun _ _ =>
    Layout.write_delivers formal (made.legible known strings) suits composed writes word comment
  exact body.good_of_ok written

end SceneCatalog
