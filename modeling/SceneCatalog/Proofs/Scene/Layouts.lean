import SceneCatalog.Proofs.Scene.Composers

/-
This file shows when the blocks of whole layouts can be written, and that they are sound.
-/

namespace SceneCatalog

open Markup Text

/-- How a clause composes lines by itself. -/
abbrev Composer := NodeWriter → Object → Except SceneError (List String)

def Clause.composer? : Clause → Option Composer
  | lines compose => some compose
  | _ => none

/-- What composes lines by itself in the block of a class. -/
def Layout.composers (layout : Layout) : List Composer :=
  layout.sections.flatMap fun part => part.clauses.filterMap Clause.composer?

/-- These are all the lines that layouts compose by themselves. -/
theorem Layout.composers_listed {className : String} {layout : Layout}
    (laid : (className, layout) ∈ Layout.ofObjects) {compose : Composer}
    (there : compose ∈ layout.composers) :
    (className = "Camera" ∧ compose = cameraType) ∨
    (className = "Camera" ∧ compose = cameraAngle) ∨
    (className = "Camera" ∧ compose = cameraBokeh) ∨
    (className = "HeightField" ∧ compose = heightFieldSource) ∨
    (className = "HeightField" ∧ compose = heightFieldGamma) ∨
    (className = "IsoSurface" ∧ compose = isoSurfaceTrace) ∨
    (className = "JuliaFractal" ∧ compose = juliaFormula) ∨
    (className = "JuliaFractal" ∧ compose = juliaSlice) ∨
    (className = "LightSource" ∧ compose = lightType) ∨
    (className = "Parametric" ∧ compose = precomputed) ∨
    (className = "Polynomial" ∧ compose = polynomialTerms) ∨
    (className = "Quadric" ∧ compose = quadricCoefficients) ∨
    (className = "SphereSweep" ∧ compose = sweptSpheres) ∨
    (className = "Triangle" ∧ compose = triangleCorners) := by
  have composing : ofObjects.flatMap (fun entry => entry.2.composers.map (entry.1, ·)) = [
      ("Camera", cameraType), ("Camera", cameraAngle), ("Camera", cameraBokeh),
      ("HeightField", heightFieldSource), ("HeightField", heightFieldGamma),
      ("IsoSurface", isoSurfaceTrace), ("JuliaFractal", juliaFormula),
      ("JuliaFractal", juliaSlice), ("LightSource", lightType), ("Parametric", precomputed),
      ("Polynomial", polynomialTerms), ("Quadric", quadricCoefficients),
      ("SphereSweep", sweptSpheres), ("Triangle", triangleCorners)] := by
    rfl
  have listed : (className, compose) ∈
      ofObjects.flatMap fun entry => entry.2.composers.map (entry.1, ·) :=
    List.mem_flatMap.2 ⟨_, laid, List.mem_map_of_mem there⟩
  rw [composing] at listed
  simpa only [List.mem_cons, Prod.mk.injEq, List.not_mem_nil, or_false] using listed

def Class.requires (cls : Class) (name : String) : Bool := cls.own.required.any (·.name == name)

/-- The attributes without objects that lines composed by themselves read. -/
def Layout.composedTexts : String → List String
  | "Camera" => ["type", "cylinderType", "angle", "vertAngle", "bokeh"]
  | "HeightField" => ["source", "hfType", "gamma"]
  | "IsoSurface" => ["maxTrace"]
  | "JuliaFractal" => ["type", "slice", "distance"]
  | "LightSource" => ["type"]
  | "Parametric" => ["precomputeDepth"]
  | "Polynomial" => ["coefficients"]
  | "Quadric" => ["coefficients"]
  | "Sphere" => ["center", "radius"]
  | "Triangle" => ["corner1", "corner2", "corner3", "normal1", "normal2", "normal3"]
  | _ => []

/-- The attributes that lines composed by themselves cannot do without. -/
def Layout.composedNeeds : String → List String
  | "Camera" => ["type"]
  | "HeightField" => ["source"]
  | "JuliaFractal" => ["type"]
  | "LightSource" => ["type"]
  | "Polynomial" => ["coefficients"]
  | "Quadric" => ["coefficients"]
  | "SphereSweep" => ["spheres"]
  | "Triangle" => ["corner1", "corner2", "corner3"]
  | _ => []

/-- What is composed for a class it reads as texts, and what that needs it requires. -/
theorem Layout.composed_reads {className : String} {cls : Class}
    (known : catalog.class? className = some cls) :
    (∀ name ∈ composedTexts className, cls.readsText name = true) ∧
      ∀ name ∈ composedNeeds className, cls.requires name = true := by
  have checked : (catalog.all fun table => (catalog.class? table.name).all fun cls =>
      (composedTexts cls.name).all cls.readsText && (composedNeeds cls.name).all cls.requires) =
        true := by
    decide
  have here := Catalog.class_all checked known
  have named : cls.name = className := (Catalog.class_known known).1
  simpa [named] using here

/-- A sweep takes lists of spheres only. -/
theorem spheres_rule : ((catalog.class? "SphereSweep").bind fun cls =>
    (cls.rule? "spheres").bind Attribute.validator) =
      some (.check (.list 2 none (.ofClass ["Sphere"]))) := by
  rfl

/-- A height field is read from an image of the name. -/
def Object.NamesFile (object : Object) (file : String) : Prop :=
  object.className = "HeightField" ∧ object.value? "source" = some (.text file) ∧
    Layout.namesImage file = true

/-- The strings and code of an object have the property, and so do the endings of the name of an
image, which stand in front of the name. -/
structure Object.Voiced (holds : List Char → Prop) (object : Object) : Prop where
  strings : ∀ content, object.Mentions content → Phrase holds content
  endings : ∀ file, object.NamesFile file → ∀ ending, ending <:+ file.toList → holds ending

section Composed

variable {holds : List Char → Prop} {object : Object} {cls : Class}

theorem set_of_requires (required : ∀ rule ∈ cls.own.required, (object.value? rule.name).isSome)
    {name : String} (requires : cls.requires name = true) : (object.value? name).isSome := by
  obtain ⟨rule, member, named⟩ := List.any_eq_true.1 requires
  have same : rule.name = name := by simpa using named
  exact same ▸ required rule member

theorem Object.swept_of_ne (other : object.className ≠ "SphereSweep") : object.Swept :=
  fun named => absurd named other

/-- The name of an image is a string of its height field. -/
theorem Object.Made.mentions_file (made : object.Made) {file : String}
    (names : object.NamesFile file) : object.Mentions file := by
  obtain ⟨named, found, _⟩ := names
  obtain ⟨cls, known, _⟩ := made.known
  have text := (Layout.composed_reads (named ▸ known)).1 "source" (by decide)
  obtain ⟨rule, ruled, _⟩ := (Option.any_eq_true _ _).1 text
  exact ⟨_, (made.reads known ruled found).1, .inl .here⟩

/-- The spheres of a sweep are code or a list of spheres. -/
theorem Object.Made.spheres (made : object.Made)
    (known : catalog.class? object.className = some cls) (voiced : object.Voiced holds)
    (named : object.className = "SphereSweep") {value : Value}
    (found : object.value? "spheres" = some value) :
    (∃ code, value = .code code ∧ Phrase holds code) ∨
      ∃ items, value = .list items ∧ ∀ item ∈ items, ∃ identity sphere,
        item = .node identity sphere ∧ sphere.className = "Sphere" ∧ object.Holds sphere := by
  have ruled := spheres_rule
  rw [← named, known, Option.bind_some] at ruled
  obtain ⟨rule, declared, validated⟩ := Option.bind_eq_some_iff.1 ruled
  obtain ⟨stored, shape⟩ := made.reads known declared found
  rcases shape with ⟨code, rfl⟩ | ⟨validator, applies, fixed⟩
  · exact .inl ⟨code, rfl, voiced.strings code ⟨_, stored, .inr .here⟩⟩
  · obtain rfl := Option.some.inj (validated.symm.trans applies)
    obtain ⟨items, rfl, _, each⟩ := Check.accepts_item (Validator.accepts_of_fixed fixed)
    refine .inr ⟨items, rfl, fun item member => ?_⟩
    obtain ⟨identity, sphere, rfl⟩ := Value.isNode_iff.1
      (Check.isNode_of_accepts (by decide) (each item member))
    have sphereNamed : sphere.className = "Sphere" := by
      simpa [Check.accepts, Value.className?] using each _ member
    have inside : (Value.list items).Holds sphere :=
      Value.holds_list_iff.2 ⟨_, member, Value.holds_node_iff.2 rfl⟩
    exact ⟨identity, sphere, rfl, sphereNamed, _, stored, inside⟩

section Composers

variable (blockwise : Blockwise holds) (known : catalog.class? object.className = some cls)
  (required : ∀ rule ∈ cls.own.required, (object.value? rule.name).isSome) (writer : NodeWriter)
  {layout : Layout} (laid : (object.className, layout) ∈ Layout.ofObjects) {compose : Composer}
  (there : compose ∈ layout.composers)
include blockwise known required laid there

/-- Lines that a clause composes by itself are there once what is required is set. Those of a sweep
are set apart. -/
theorem Layout.composer_gives (legible : object.Legible holds cls)
    (endings : ∀ file, object.NamesFile file → ∀ ending, ending <:+ file.toList → holds ending)
    (other : object.className ≠ "SphereSweep") : Gives (Passage holds) (compose writer object) := by
  have formal := blockwise.toFormal
  have listed := Layout.composers_listed laid there
  -- What the class reads and requires, once the class is known.
  have reads {className : String} (named : object.className = className) :
      (∀ name ∈ composedTexts className, cls.readsText name = true) ∧
        ∀ name ∈ composedNeeds className, (object.value? name).isSome := by
    obtain ⟨texts, needs⟩ := composed_reads (named ▸ known)
    exact ⟨texts, fun name member => set_of_requires required (needs name member)⟩
  rcases listed with ⟨named, rfl⟩ | ⟨named, rfl⟩ | ⟨named, rfl⟩ | ⟨named, rfl⟩ | ⟨named, rfl⟩ |
    ⟨named, rfl⟩ | ⟨named, rfl⟩ | ⟨named, rfl⟩ | ⟨named, rfl⟩ | ⟨named, rfl⟩ | ⟨named, rfl⟩ |
    ⟨named, rfl⟩ | ⟨named, _⟩ | ⟨named, rfl⟩
  · obtain ⟨texts, set⟩ := reads named
    exact cameraType_gives formal legible writer (texts _ (by decide)) (texts _ (by decide))
      (set _ (by decide))
  · obtain ⟨texts, _⟩ := reads named
    exact cameraAngle_gives formal legible writer (texts _ (by decide)) (texts _ (by decide))
  · obtain ⟨texts, _⟩ := reads named
    exact cameraBokeh_gives blockwise legible writer (texts _ (by decide))
  · obtain ⟨texts, set⟩ := reads named
    exact heightFieldSource_gives formal legible writer (texts _ (by decide))
      (texts _ (by decide)) (set _ (by decide)) fun file found image =>
        endings file ⟨named, found, image⟩
  · obtain ⟨texts, _⟩ := reads named
    exact heightFieldGamma_gives formal legible writer (texts _ (by decide))
  · obtain ⟨texts, _⟩ := reads named
    exact isoSurfaceTrace_gives formal legible writer (texts _ (by decide))
  · obtain ⟨texts, set⟩ := reads named
    exact juliaFormula_gives formal legible writer (texts _ (by decide)) (set _ (by decide))
  · obtain ⟨texts, _⟩ := reads named
    exact juliaSlice_gives formal legible writer (texts _ (by decide)) (texts _ (by decide))
  · obtain ⟨texts, set⟩ := reads named
    exact lightType_gives formal legible writer (texts _ (by decide)) (set _ (by decide))
  · obtain ⟨texts, _⟩ := reads named
    exact precomputed_gives formal legible writer (texts _ (by decide))
  · obtain ⟨texts, set⟩ := reads named
    exact polynomialTerms_gives formal legible writer (texts _ (by decide)) (set _ (by decide))
  · obtain ⟨texts, set⟩ := reads named
    exact quadricCoefficients_gives formal legible writer (texts _ (by decide))
      (set _ (by decide))
  · exact absurd named other
  · obtain ⟨texts, set⟩ := reads named
    have corners : ∀ name ∈ ["corner1", "corner2", "corner3"], cls.readsText name = true :=
      fun name member => texts name (List.mem_append_left ["normal1", "normal2", "normal3"] member)
    have normals : ∀ name ∈ ["normal1", "normal2", "normal3"], cls.readsText name = true :=
      fun name member => texts name (List.mem_append_right ["corner1", "corner2", "corner3"] member)
    exact triangleCorners_gives formal legible writer corners normals set

/-- The lines of a sweep need its spheres to be complete. -/
theorem Layout.composer_delivers (made : object.Made) (voiced : object.Voiced holds)
    (within : ∀ child, object.Holds child → child.Made ∧ child.Voiced holds) :
    Delivers object.Swept (Passage holds) (compose writer object) := by
  by_cases named : object.className = "SphereSweep"
  · have same : compose = Layout.sweptSpheres := by
      have listed := Layout.composers_listed laid there
      simpa [named] using listed
    subst same
    have needs := (composed_reads (named ▸ known)).2 "spheres" (by decide)
    obtain ⟨value, found⟩ := Option.isSome_iff_exists.1 (set_of_requires required needs)
    -- The spheres are objects of a class of their own.
    obtain ⟨sphereClass, sphereKnown⟩ := Option.isSome_iff_exists.1
      (by decide : (catalog.class? "Sphere").isSome = true)
    have sphereReads := (composed_reads sphereKnown).1
    apply sweptSpheres_delivers blockwise.toFormal writer named found (sphereReads _ (by decide))
      (sphereReads _ (by decide))
    apply (made.spheres known voiced named found).imp_right
    rintro ⟨items, rfl, spheres⟩
    refine ⟨items, rfl, fun item member => ?_⟩
    obtain ⟨identity, sphere, rfl, sphereNamed, held⟩ := spheres item member
    obtain ⟨sphereMade, sphereVoiced⟩ := within sphere held
    exact ⟨identity, sphere, rfl, sphereNamed,
      sphereMade.legible (sphereNamed ▸ sphereKnown) sphereVoiced.strings⟩
  · exact .of_gives (Layout.composer_gives blockwise known required writer laid there
      (made.legible known voiced.strings) voiced.endings named) (Object.swept_of_ne named)

end Composers

end Composed

/-- What writes items one below the other writes each of them. -/
theorem writeAll_eq_mapM {Item : Type} (write : Item → Except SceneError (List Markup))
    (writeAll : List Item → Except SceneError (List Markup)) (nil : writeAll [] = .ok [])
    (cons : ∀ first rest, writeAll (first :: rest) = (do
      let above ← write first
      return above ++ (← writeAll rest))) (items : List Item) :
    writeAll items = (items.mapM write).map List.flatten := by
  induction items with
  | nil => exact nil
  | cons first rest inductionHypothesis =>
      rw [cons, inductionHypothesis, List.mapM_cons]
      cases write first with
      | error error => rfl
      | ok above => cases rest.mapM write <;> rfl

/-- Clauses are written each by itself and put one after the other. -/
theorem Clause.writeAll_eq (writer : NodeWriter) (object : Object) (clauses : List Clause) :
    Clause.writeAll writer object clauses =
      (clauses.mapM (Clause.write writer object)).map List.flatten :=
  writeAll_eq_mapM _ (Clause.writeAll writer object) rfl (fun _ _ => rfl) clauses

/-- Sections are written each by itself and put one after the other. -/
theorem Section.writeAll_eq (writer : NodeWriter) (object : Object) (sections : List Section) :
    Section.writeAll writer object sections =
      (sections.mapM (Section.write writer object)).map List.flatten :=
  writeAll_eq_mapM _ (Section.writeAll writer object) rfl (fun _ _ => rfl) sections

/-- Nothing or its flag keeps the section out of the block. -/
def Section.Active (object : Object) : Section → Prop
  | always _ => True
  | whileOn switch _ => object.flag? switch = some true
  | blockWhileOn switch _ _ => object.flag? switch = some true

/-- If the section is in the block, all of its clauses are ready. -/
def Section.Ready (complete : Object → Prop) (object : Object) (part : Section) : Prop :=
  part.Active object → ∀ clause ∈ part.clauses, clause.Ready complete object

section Blocks

variable {holds : List Char → Prop} {object : Object} {cls : Class} {complete : Object → Prop}
  {writer : NodeWriter}

/-- Clauses are written when all of them are ready. -/
theorem Clause.writeAll_delivers {clauses : List Clause}
    (each : ∀ clause ∈ clauses,
      Delivers (clause.Ready complete object) (Sound holds) (clause.write writer object)) :
    Delivers (∀ clause ∈ clauses, clause.Ready complete object) (Sound holds)
      (Clause.writeAll writer object clauses) := by
  rw [Clause.writeAll_eq]
  exact (Delivers.mapM each).map fun _ sound => .flatten sound

/-- A section is written when it is ready. -/
theorem Section.write_delivers {part : Section} (suits : part.suits cls = true)
    (each : ∀ clause ∈ part.clauses,
      Delivers (clause.Ready complete object) (Sound holds) (clause.write writer object)) :
    Delivers (part.Ready complete object) (Sound holds) (part.write writer object) := by
  have clauses := Clause.writeAll_delivers each
  cases part with
  | always _ => exact clauses.congr ⟨fun ready _ => ready, fun ready => ready trivial⟩
  | whileOn switch _ =>
      rw [Section.write]
      split
      · rename_i on
        have active := eq_of_beq on
        exact clauses.congr ⟨fun ready _ => ready, fun ready => ready active⟩
      · rename_i off
        exact .of_gives (.ok .nil) fun active => absurd (beq_iff_eq.2 active) off
  | blockWhileOn switch keyword _ =>
      rw [Section.suits, Bool.and_eq_true] at suits
      rw [Section.write]
      split
      · rename_i on
        have active := eq_of_beq on
        have word := marks_of_isUnmarked (List.all_eq_true.1 suits.2 keyword (.head _))
        have block : Delivers _ (Sound holds)
            ((Clause.writeAll writer object _).map fun body => [.block none keyword body]) :=
          clauses.map fun body sound => .block nofun word sound .nil
        exact block.congr ⟨fun ready _ => ready, fun ready => ready active⟩
      · rename_i off
        exact .of_gives (.ok .nil) fun active => absurd (beq_iff_eq.2 active) off

/-- A block is written if all sections in it are ready, with the identifier above it. -/
theorem Layout.write_delivers (formal : Formal holds) (legible : object.Legible holds cls)
    {layout : Layout} (suits : layout.sections.all (·.suits cls) = true)
    (composed : ∀ compose ∈ layout.composers,
      Delivers object.Swept (Passage holds) (compose writer object))
    (writes : ∀ child, object.Holds child →
      Delivers (complete child) (fun block => Sound holds [block]) (writer child))
    (word : marks (layout.keyword object).toList = [])
    (comment : Gives (fun shown => ∀ content, shown = some content → Phrase holds content)
      (textIfSet writer object "id")) :
    Delivers (∀ part ∈ layout.sections, part.Ready complete object)
      (fun block => Sound holds [block]) (layout.write writer object) := by
  have each : ∀ part ∈ layout.sections,
      Delivers (part.Ready complete object) (Sound holds) (part.write writer object) := by
    intro part member
    have partSuits : part.suits cls = true := List.all_eq_true.1 suits part member
    apply Section.write_delivers partSuits
    intro clause clauseMember
    rw [Section.suits, Bool.and_eq_true, List.all_eq_true] at partSuits
    apply Clause.write_delivers formal legible writes (partSuits.1 clause clauseMember)
    rintro compose rfl
    apply composed
    exact List.mem_flatMap.2 ⟨part, member, List.mem_filterMap.2 ⟨_, clauseMember, rfl⟩⟩
  have body : Delivers (∀ part ∈ layout.sections, part.Ready complete object) (Sound holds)
      (Section.writeAll writer object layout.sections) := by
    rw [Section.writeAll_eq]
    exact (Delivers.mapM each).map fun _ sound => .flatten sound
  have titled (entries : List Markup) (sound : Sound holds entries) :
      Gives (fun block => Sound holds [block]) (do
        let shown ← textIfSet writer object "id"
        return .block shown (layout.keyword object) entries) :=
    comment.bind fun shown held => .ok (.block held word sound .nil)
  have block := body.bind fun entries sound => Delivers.of_gives (titled entries sound) trivial
  exact block.congr (and_iff_left trivial)

end Blocks

end SceneCatalog
