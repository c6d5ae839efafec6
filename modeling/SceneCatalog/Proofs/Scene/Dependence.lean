import SceneCatalog.Proofs.Scene.Alike
import SceneCatalog.Proofs.Scene.Rendering

/-
This file shows that the block of an object depends on nothing but the attributes that its layout
reads, and on how the objects in them are written.
-/

namespace SceneCatalog

namespace Layout

section Composers

variable {writer other : NodeWriter} {first second : Object}

/-- The type of a camera is written from the word for its key and the variant of a cylinder. -/
theorem cameraType_congr (mirrors : first.Mirrors (composedNames "Camera") writer other second) :
    cameraType writer first = cameraType other second := by
  apply mirrors.required "type" (by decide)
  intro kind twin here
  rw [here.keyed, mirrors.textIfSet _ (by decide)]

/-- Of the angle of a camera the numbers and the text count, of the vertical one its text. -/
theorem cameraAngle_congr (mirrors : first.Mirrors (composedNames "Camera") writer other second) :
    cameraAngle writer first = cameraAngle other second := by
  unfold cameraAngle
  rw [mirrors.textIfSet _ (by decide)]
  apply mirrors.ifUnset _ (by decide)
  intro angle twin here
  simp only [here.floats, here.verbatim]

/-- The bokeh of a camera is written from its text. -/
theorem cameraBokeh_congr (mirrors : first.Mirrors (composedNames "Camera") writer other second) :
    cameraBokeh writer first = cameraBokeh other second := by
  rw [cameraBokeh, cameraBokeh, mirrors.textIfSet _ (by decide)]

/-- The type of a light is written from its string or as it stands. -/
theorem lightType_congr
    (mirrors : first.Mirrors (composedNames "LightSource") writer other second) :
    lightType writer first = lightType other second := by
  apply mirrors.required _ (by decide)
  intro kind twin here
  rw [here.asText, here.verbatim]

/-- A source that is a string is the same for both, and any other one is written as it stands. -/
theorem heightFieldSource_congr
    (mirrors : first.Mirrors (composedNames "HeightField") writer other second) :
    heightFieldSource writer first = heightFieldSource other second := by
  apply mirrors.required _ (by decide)
  intro source twin here
  have shown := here.verbatim
  rw [mirrors.textIfSet _ (by decide)]
  cases here with
  | single =>
      cases source with
      | text file => rfl
      | _ => simp only [shown]
  | list => simp only [shown]
  | node => simp only [shown]

/-- The gamma of a height field is written from its string or as it stands. -/
theorem heightFieldGamma_congr
    (mirrors : first.Mirrors (composedNames "HeightField") writer other second) :
    heightFieldGamma writer first = heightFieldGamma other second := by
  apply mirrors.ifUnset _ (by decide)
  intro gamma twin here
  rw [here.asText, here.verbatim]

/-- The trace of an isosurface is written from its string or as it stands. -/
theorem isoSurfaceTrace_congr
    (mirrors : first.Mirrors (composedNames "IsoSurface") writer other second) :
    isoSurfaceTrace writer first = isoSurfaceTrace other second := by
  apply mirrors.ifUnset _ (by decide)
  intro trace twin here
  rw [here.asText, here.verbatim]

/-- The formula of a fractal is written from its type and the vector of its power. -/
theorem juliaFormula_congr
    (mirrors : first.Mirrors (composedNames "JuliaFractal") writer other second) :
    juliaFormula writer first = juliaFormula other second := by
  apply mirrors.required _ (by decide)
  intro kind twin here
  rw [here.asText, here.verbatim, mirrors.vector "power" (by decide)]

/-- The slice of a fractal is written from the texts of the slice and the distance. -/
theorem juliaSlice_congr
    (mirrors : first.Mirrors (composedNames "JuliaFractal") writer other second) :
    juliaSlice writer first = juliaSlice other second := by
  unfold juliaSlice
  rw [mirrors.textIfSet _ (by decide)]
  apply mirrors.ifUnset _ (by decide)
  intro slice twin here
  rw [here.verbatim]

/-- The axes that are precomputed are those whose flags are on, so they are the same. -/
theorem precomputed_congr
    (mirrors : first.Mirrors (composedNames "Parametric") writer other second) :
    precomputed writer first = precomputed other second := by
  have axes : ([("precomputeX", "x"), ("precomputeY", "y"), ("precomputeZ", "z")].filter
        fun axis => first.flag? axis.1 == some true) =
      [("precomputeX", "x"), ("precomputeY", "y"), ("precomputeZ", "z")].filter
        fun axis => second.flag? axis.1 == some true := by
    simp only [List.filter_cons, List.filter_nil,
      mirrors.flag "precomputeX" (by decide),
      mirrors.flag "precomputeY" (by decide),
      mirrors.flag "precomputeZ" (by decide)]
  unfold precomputed
  rw [axes]
  apply mirrors.ifUnset _ (by decide)
  intro depth twin here
  simp only [here.verbatim]

/-- Terms that mirror each other are written the same. -/
theorem polynomialTerm_congr {term twin : Value} (here : term.Mirrors writer other twin) :
    polynomialTerm writer term = polynomialTerm other twin := by
  rw [polynomialTerm, polynomialTerm, here.asVector, here.verbatim]

/-- The coefficients of a polynomial are written term by term, or as they stand. -/
theorem polynomialTerms_congr
    (mirrors : first.Mirrors (composedNames "Polynomial") writer other second) :
    polynomialTerms writer first = polynomialTerms other second := by
  apply mirrors.required _ (by decide)
  intro coefficients twin here
  have shown := here.verbatim
  cases here with
  | single noList => simp only [noList, shown]
  | list each =>
      have terms := each.imp fun _ _ => polynomialTerm_congr
      simp only [Value.asList?, mapM_pairwise terms]
  | node => simp only [Value.asList?, shown]

/-- Ten coefficients are written in groups, any other value as it stands. -/
theorem quadricCoefficients_congr
    (mirrors : first.Mirrors (composedNames "Quadric") writer other second) :
    quadricCoefficients writer first = quadricCoefficients other second := by
  apply mirrors.required _ (by decide)
  intro coefficients twin here
  have shown := here.verbatim
  cases here with
  | single noList => simp only [noList, shown]
  | list each =>
      simp only [Value.asList?]
      split
      · rename_i found
        obtain rfl := Option.some.inj found
        obtain _ | ⟨a, _ | ⟨b, _ | ⟨c, _ | ⟨d, _ | ⟨e, _ | ⟨f, _ | ⟨g, _ | ⟨h, _ | ⟨i, _ |
          ⟨j, _ | _⟩⟩⟩⟩⟩⟩⟩⟩⟩⟩ := each
        simp only [joined_pairwise (.cons a (.cons b (.cons c .nil))),
          joined_pairwise (.cons d (.cons e (.cons f .nil))),
          joined_pairwise (.cons g (.cons h (.cons i .nil))), j.verbatim]
      · -- Neither list has ten items.
        rename_i unmatched
        split
        · rename_i found
          obtain rfl := Option.some.inj found
          obtain _ | ⟨_, _ | ⟨_, _ | ⟨_, _ | ⟨_, _ | ⟨_, _ | ⟨_, _ | ⟨_, _ | ⟨_, _ | ⟨_, _ |
            ⟨_, _ | _⟩⟩⟩⟩⟩⟩⟩⟩⟩⟩ := each
          exact (unmatched _ _ _ _ _ _ _ _ _ _ rfl).elim
        · simp only [shown]
  | node => simp only [Value.asList?, shown]

/-- Triangles that mirror each other are both smooth or both flat. -/
theorem smoothNormals_congr
    (mirrors : first.Mirrors (composedNames "Triangle") writer other second) :
    Option.Rel (List.Forall₂ (Value.Mirrors writer other)) (smoothNormals? first)
      (smoothNormals? second) := by
  rw [smoothNormals?, smoothNormals?, mirrors.flag _ (by decide)]
  split
  · exact mirrors.values fun name member =>
      List.mem_append_right ["corner1", "corner2", "corner3", "smooth"] member
  · exact .none

/-- A triangle is written from its three corners, with their normals if it is smooth. -/
theorem triangleCorners_congr
    (mirrors : first.Mirrors (composedNames "Triangle") writer other second) :
    triangleCorners writer first = triangleCorners other second := by
  have corners : ["corner1", "corner2", "corner3"].mapM (requiredText writer first) =
      ["corner1", "corner2", "corner3"].mapM (requiredText other second) := by
    apply mapM_congr
    intro name member
    exact mirrors.requiredText name
      (List.mem_append_left ["smooth", "normal1", "normal2", "normal3"] member)
  have normals := smoothNormals_congr mirrors
  unfold triangleCorners
  rw [corners]
  generalize smoothNormals? first = found, smoothNormals? second = twins at normals
  cases normals with
  | none => rfl
  | some each => simp only [mapM_pairwise (each.imp fun _ _ here => here.verbatim)]

/-- Spheres that mirror each other are swept the same. -/
theorem sweptSphere_congr {item twin : Value} (here : item.Mirrors writer other twin) :
    sweptSphere writer item = sweptSphere other twin := by
  cases here with
  | single _ noNode =>
      cases item with
      | node => contradiction
      | _ => rfl
  | list => rfl
  | node sameClass _ sphere =>
      unfold sweptSphere
      simp only [Value.asObject?, Option.filter, sameClass]
      split_ifs
      · simp only [sphere "center" (by decide), sphere "radius" (by decide)]
      · rfl

/-- A sweep is written from what it reads of its spheres, or as it stands. -/
theorem sweptSpheres_congr
    (mirrors : first.Mirrors (composedNames "SphereSweep") writer other second) :
    sweptSpheres writer first = sweptSpheres other second := by
  apply mirrors.required _ (by decide)
  intro spheres twin here
  have shown := here.verbatim
  cases here with
  | single noList => simp only [noList, shown]
  | list each =>
      have texts := each.imp fun _ _ => sweptSphere_congr
      simp only [Value.asList?, mapM_pairwise texts, each.length_eq]
  | node => simp only [Value.asList?, shown]

end Composers

section Blocks

variable {writer other : NodeWriter} {first second : Object} {className : String}
  {layout : Layout}

/-- The classes whose objects are written as blocks: settings stand in no scene themselves. -/
def ofBlocks : List (String × Layout) := ("GlobalSettings", globalSettings) :: ofObjects

/-- What a layout composes depends on the attributes that are composed for its class. -/
theorem composer_congr (laid : (className, layout) ∈ ofBlocks) {compose : Composer}
    (there : compose ∈ layout.composers)
    (mirrors : first.Mirrors (composedNames className) writer other second) :
    compose writer first = compose other second := by
  rcases List.mem_cons.1 laid with same | laid
  · rw [(Prod.mk.inj same).2] at there
    contradiction
  rcases composers_listed laid there with ⟨rfl, rfl⟩ | ⟨rfl, rfl⟩ | ⟨rfl, rfl⟩ | ⟨rfl, rfl⟩ |
    ⟨rfl, rfl⟩ | ⟨rfl, rfl⟩ | ⟨rfl, rfl⟩ | ⟨rfl, rfl⟩ | ⟨rfl, rfl⟩ | ⟨rfl, rfl⟩ | ⟨rfl, rfl⟩ |
    ⟨rfl, rfl⟩ | ⟨rfl, rfl⟩ | ⟨rfl, rfl⟩
  · exact cameraType_congr mirrors
  · exact cameraAngle_congr mirrors
  · exact cameraBokeh_congr mirrors
  · exact heightFieldSource_congr mirrors
  · exact heightFieldGamma_congr mirrors
  · exact isoSurfaceTrace_congr mirrors
  · exact juliaFormula_congr mirrors
  · exact juliaSlice_congr mirrors
  · exact lightType_congr mirrors
  · exact precomputed_congr mirrors
  · exact polynomialTerms_congr mirrors
  · exact quadricCoefficients_congr mirrors
  · exact sweptSpheres_congr mirrors
  · exact triangleCorners_congr mirrors

/-- What a section writes depends on the attributes that it reads. -/
theorem section_congr (laid : (className, layout) ∈ ofBlocks) {part : Section}
    (member : part ∈ layout.sections)
    (mirrors : first.Mirrors (part.reads className) writer other second) :
    part.write writer first = part.write other second := by
  apply Section.write_congr mirrors
  intro compose there
  apply composer_congr laid
  · exact List.mem_flatMap.2 ⟨part, member, List.mem_filterMap.2 ⟨_, there, rfl⟩⟩
  · exact mirrors.mono fun name inside =>
      List.mem_append_right _ (List.mem_flatMap.2 ⟨_, there, inside⟩)

/-- What stands in the braces depends on the attributes that the layout reads. -/
theorem sections_congr (laid : (className, layout) ∈ ofBlocks)
    (mirrors : first.Mirrors (layout.reads className) writer other second) :
    Section.writeAll writer first layout.sections =
      Section.writeAll other second layout.sections := by
  have each : ∀ part ∈ layout.sections, part.write writer first = part.write other second := by
    intro part member
    apply section_congr laid member
    exact mirrors.mono fun name inside => List.mem_flatMap.2 ⟨part, member, inside⟩
  rw [Section.writeAll_eq, Section.writeAll_eq, mapM_congr each]

/-- The keyword of a block depends on what the layout reads. -/
theorem keyword_congr (laid : (className, layout) ∈ ofBlocks)
    (mirrors : first.Mirrors (layout.reads className) writer other second) :
    layout.keyword first = layout.keyword second := by
  rcases List.mem_cons.1 laid with settings | laid
  · rw [(Prod.mk.inj settings).2, globalSettings]
  rcases keyword_constant laid with same | constant
  · obtain ⟨rfl, rfl⟩ := Prod.mk.inj same
    have composed : composedNames "Triangle" ⊆ triangle.reads "Triangle" :=
      List.subset_append_left _ _
    have normals := smoothNormals_congr (mirrors.mono composed)
    rw [triangle]
    dsimp only
    generalize smoothNormals? first = found, smoothNormals? second = twins at normals ⊢
    cases normals <;> rfl
  · exact constant first second

end Blocks

end Layout

namespace Object

variable {writer other : NodeWriter} {first second : Object} {layout : Layout}

/-- What stands in the block of an object below the identifier: the keyword and the entries. -/
def interior (layout : Layout) (writer : NodeWriter) (object : Object) :
    Except SceneError (String × List Markup) := do
  object.requireOwn
  return (layout.keyword object, ← Section.writeAll writer object layout.sections)

/-- A block is its inside under the comment with the `id`. -/
theorem writeAs_eq (layout : Layout) (writer : NodeWriter) (object : Object) :
    object.writeAs layout writer = (do
      let (keyword, entries) ← object.interior layout writer
      return .block (← textIfSet writer object "id") keyword entries) := by
  rw [writeAs, Layout.write, interior]
  cases object.requireOwn with
  | error error => rfl
  | ok _ => cases Section.writeAll writer object layout.sections <;> rfl

/-- Objects that lack the same attributes of those that their class requires fail alike. -/
theorem requireOwn_eq (sameClass : first.className = second.className)
    (lacking : ∀ table, catalog.find? first.className = some table → ∀ rule ∈ table.required,
      (first.value? rule.name).isNone = (second.value? rule.name).isNone) :
    first.requireOwn = second.requireOwn := by
  rw [requireOwn, requireOwn, ← sameClass]
  cases found : catalog.find? first.className with
  | none => rfl
  | some table =>
      have same : table.required.find? (fun rule => (first.value? rule.name).isNone) =
          table.required.find? fun rule => (second.value? rule.name).isNone := by
        rw [← List.head?_filter, ← List.head?_filter]
        congr 1
        exact List.filter_congr fun rule member => lacking table found rule member
      simp only [ClassTable.require, ClassTable.missingRequired?, same]

/-- What a class requires is read for its block. -/
theorem requireOwn_congr (laid : (first.className, layout) ∈ Layout.ofBlocks)
    (mirrors : first.Mirrors (layout.reads first.className) writer other second) :
    first.requireOwn = second.requireOwn := by
  have checked : (Layout.ofBlocks.all fun entry => (catalog.find? entry.1).all fun table =>
      table.required.all fun rule => (entry.2.reads entry.1).contains rule.name) = true := by
    decide
  have here := List.all_eq_true.1 checked _ laid
  apply requireOwn_eq mirrors.className
  intro table found rule member
  rw [found, Option.all_some, List.all_eq_true] at here
  exact mirrors.isNone rule.name (by simpa using here rule member)

/-- Objects that mirror each other in the attributes of their layout are written alike up to the
identifier. -/
theorem interior_congr (laid : (first.className, layout) ∈ Layout.ofBlocks)
    (mirrors : first.Mirrors (layout.reads first.className) writer other second) :
    first.interior layout writer = second.interior layout other := by
  rw [interior, interior, requireOwn_congr laid mirrors, Layout.keyword_congr laid mirrors,
    Layout.sections_congr laid mirrors]

/-- An object mirrors itself if the writers agree on the objects in it. -/
theorem mirrors_self {object : Object} (agree : AgreeBelow object.depth writer other)
    (names : List String) : object.Mirrors names writer other object :=
  Alike.mirrors ⟨rfl, fun _ _ => rfl, fun _ _ _ found => agree.mono (depth_le_of_value found)⟩

/-- The block of an object depends on the writer below its own depth only. -/
theorem writeAs_congr {object : Object}
    (laid : (object.className, layout) ∈ Layout.ofBlocks)
    (agree : AgreeBelow object.depth writer other) :
    object.writeAs layout writer = object.writeAs layout other := by
  rw [writeAs_eq, writeAs_eq, interior_congr laid (mirrors_self agree _),
    (mirrors_self agree ["id"]).textIfSet "id" (.head _)]

/-- More depth than the object has changes nothing. -/
theorem markupWithin_congr {depth deeper : Nat} {object : Object} (deep : object.depth < depth)
    (alsoDeep : object.depth < deeper) :
    object.markupWithin depth = object.markupWithin deeper := by
  induction depth generalizing deeper object with
  | zero => exact absurd deep (Nat.not_lt_zero _)
  | succ depth inductionHypothesis =>
      obtain ⟨deeper, rfl⟩ := Nat.exists_eq_succ_of_ne_zero (Nat.ne_zero_of_lt alsoDeep)
      rw [markupWithin, markupWithin]
      split
      · rename_i layout found
        apply writeAs_congr (List.mem_cons_of_mem _ (Layout.mem_of_ofClass found))
        intro child smaller
        exact inductionHypothesis (by omega) (by omega)
      · rfl

/-- The objects in an object are written just as they are alone. -/
theorem markup_eq {object : Object} (found : Layout.ofClass? object.className = some layout) :
    object.markup = object.writeAs layout markup := by
  rw [markup, markupWithin, found]
  apply writeAs_congr (List.mem_cons_of_mem _ (Layout.mem_of_ofClass found))
  intro child smaller
  exact markupWithin_congr smaller (Nat.lt_succ_self _)

end Object

end SceneCatalog
