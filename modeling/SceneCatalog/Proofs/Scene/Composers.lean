import SceneCatalog.Proofs.Scene.Clauses

/-
This file shows that the lines that a clause composes by itself keep a property of texts.
-/

namespace SceneCatalog

open Text

/-- Two lines have the property together when it holds of their texts in a row. -/
theorem passage_pair {holds : List Char → Prop} {first second : String}
    (held : holds (first.toList ++ second.toList)) : Passage holds [first, second] := by
  simpa [Passage] using held

/-- An optional text with a substitute has the property when both have it. -/
theorem phrase_getD {holds : List Char → Prop} {shown : Option String}
    (held : ∀ content, shown = some content → Phrase holds content) {otherwise : String}
    (otherwiseHeld : Phrase holds otherwise) : Phrase holds (shown.getD otherwise) := by
  cases shown with
  | none => exact otherwiseHeld
  | some content => exact held content rfl

/-- A required attribute that is set and read as text gives a textual value. -/
theorem required_gives {holds : List Char → Prop} {cls : Class} {object : Object}
    (legible : object.Legible holds cls) {name : String} (text : cls.readsText name = true)
    (set : (object.value? name).isSome) : Gives (Value.Textual holds) (object.required name) := by
  obtain ⟨value, found⟩ := Option.isSome_iff_exists.1 set
  rw [Object.required, found]
  exact .ok (legible.texts text found)

/-- The string of a textual value has the property. -/
theorem Value.Textual.phrase_of_asText {holds : List Char → Prop} {value : Value}
    (textual : value.Textual holds) {content : String} (found : value.asText? = some content) :
    Phrase holds content := by
  cases textual with
  | code held => exact Option.some.inj found ▸ held
  | text held => exact Option.some.inj found ▸ held
  | _ => contradiction

/-- The items of a textual list are textual. -/
theorem Value.Textual.items {holds : List Char → Prop} {value : Value}
    (textual : value.Textual holds) {items : List Value} (found : value.asList? = some items) :
    ∀ item ∈ items, item.Textual holds := by
  cases textual with
  | list each => exact Option.some.inj found ▸ each
  | _ => contradiction

section Lines

variable {holds : List Char → Prop} (formal : Formal holds) {value : Value}
  (textual : value.Textual holds) (writer : NodeWriter)
include formal textual

/-- A textual value makes a line with the property. -/
theorem Value.Textual.line : Gives (Passage holds) (do return [← value.verbatim writer]) :=
  (textual.verbatim formal writer).bind fun _ held => .ok (passage_single held)

/-- A textual value makes a line with the property behind a lead without marks. -/
theorem Value.Textual.lineAfter {lead : String} (free : marks lead.toList = []) :
    Gives (Passage holds) (do return [lead ++ (← value.verbatim writer)]) :=
  (textual.verbatim formal writer).bind fun _ held =>
    .ok (passage_single (formal.beside (formal.words free) held))

end Lines

namespace Layout

/-- A split at the first mark has the mark between its parts. -/
theorem splitAtFirst_eq {mark : Char} {text before behind : List Char}
    (split : splitAtFirst? mark text = some (before, behind)) :
    text = before ++ mark :: behind := by
  unfold splitAtFirst? at split
  split at split
  · rename_i marked
    obtain ⟨rfl, rfl⟩ := Prod.mk.inj (Option.some.inj split)
    clear split
    induction text with
    | nil => contradiction
    | cons c rest inductionHypothesis =>
        by_cases here : c = mark
        · simp [here]
        · have later : rest.contains mark = true := by
            simpa [Ne.symm here] using marked
          simpa [here] using inductionHypothesis later
  · contradiction

/-- What stands behind the last mark ends the text. -/
theorem afterLast_suffix {mark : Char} {text ending : List Char}
    (found : afterLast? mark text = some ending) : ending <:+ text := by
  unfold afterLast? at found
  split at found
  · rw [← Option.some.inj found, ← List.reverse_prefix, List.reverse_reverse]
    exact List.takeWhile_prefix _
  · contradiction

/-- No mark lies between `A` and `z`. -/
theorem isMark_between {c : Char} (low : 65 ≤ c.toNat) (high : c.toNat ≤ 122) :
    isMark c = false := by
  rw [isMark_false_iff]
  refine ⟨?_, ?_, ?_⟩ <;> rintro rfl
  · exact absurd low (by decide)
  · exact absurd high (by decide)
  · exact absurd high (by decide)

/-- Lower case neither makes nor unmakes a mark. -/
theorem marks_lowered (text : List Char) : marks (text.map Char.toLower) = marks text := by
  induction text with
  | nil => rfl
  | cons c rest inductionHypothesis =>
      have same : marks [c.toLower] = marks [c] := by
        unfold Char.toLower
        split
        · rename_i upper
          have low : 65 ≤ c.toNat := upper.1
          have high : c.toNat ≤ 90 := upper.2
          have lowered : (c.val + ('a'.val - 'A'.val)).toNat = c.toNat + 32 := by
            rw [UInt32.toNat_add, Nat.mod_eq_of_lt]
            · rfl
            · show c.toNat + 32 < 4294967296
              omega
          have capital : isMark c = false := isMark_between low (by omega)
          have small (valid : (c.val + ('a'.val - 'A'.val)).isValidChar) :
              isMark ⟨c.val + ('a'.val - 'A'.val), valid⟩ = false := by
            apply isMark_between
            · show 65 ≤ (c.val + ('a'.val - 'A'.val)).toNat
              omega
            · show (c.val + ('a'.val - 'A'.val)).toNat ≤ 122
              omega
          simp only [marks, List.filter_cons, List.filter_nil, capital, small]
          rfl
        · rfl
      rw [List.map_cons, ← List.singleton_append, marks_append, inductionHypothesis, same,
        ← marks_append, List.singleton_append]

section Composers

variable {holds : List Char → Prop} (formal : Formal holds) {cls : Class} {object : Object}
  (legible : object.Legible holds cls) (writer : NodeWriter)
include formal legible

/-- The line with the type of a camera has the property. -/
theorem cameraType_gives (kinds : cls.readsText "type" = true)
    (variants : cls.readsText "cylinderType" = true) (set : (object.value? "type").isSome) :
    Gives (Passage holds) (cameraType writer object) := by
  have words : ∀ keyword ∈ Vocabulary.cameraTypes, marks keyword.word.toList = [] := by decide
  apply (required_gives legible kinds set).bind
  intro value textual
  apply (textual.keyed formal words writer).bind
  intro kind kindHeld
  split
  · apply (textIfSet_gives legible variants formal writer).bind
    intro variant variantHeld
    have chosen : Phrase holds (variant.getD "1") := phrase_getD variantHeld (formal.words rfl)
    exact .ok (passage_single (formal.beside (formal.words rfl) chosen))
  · exact .ok (passage_single kindHeld)

theorem cameraAngle_gives (angles : cls.readsText "angle" = true)
    (verticals : cls.readsText "vertAngle" = true) :
    Gives (Passage holds) (cameraAngle writer object) := by
  unfold cameraAngle
  split
  · exact .ok formal.nil
  · rename_i angle found
    have textual := legible.texts angles found
    extract_lets finish
    have finished (horizontal : List String) (held : ∀ text ∈ horizontal, Phrase holds text) :
        Gives (Passage holds) (finish horizontal) := by
      unfold finish
      have joined (vertical : Option String)
          (verticalHeld : ∀ content, vertical = some content → Phrase holds content) :
          Passage holds ["angle " ++ " ".intercalate (horizontal ++ vertical.toList)] := by
        apply passage_single
        apply formal.beside (formal.words rfl)
        apply formal.intercalate rfl
        intro part member
        rcases List.mem_append.1 member with first | second
        · exact held part first
        · exact verticalHeld part (Option.mem_toList.1 second)
      dsimp only
      split
      · apply (textIfSet_gives legible verticals formal writer).bind
        exact fun vertical verticalHeld => .ok (joined vertical verticalHeld)
      · exact .ok (joined none nofun)
    split
    · rename_i numbers _
      apply finished
      intro text member
      obtain ⟨number, _, rfl⟩ := List.mem_map.1 member
      exact formal.words (marks_number number)
    · apply ((textual.verbatim formal writer).map ?_).bind finished
      intro text held
      simpa using held

theorem lightType_gives (kinds : cls.readsText "type" = true)
    (set : (object.value? "type").isSome) :
    Gives (Passage holds) (lightType writer object) := by
  apply (required_gives legible kinds set).bind
  intro kind textual
  split
  · exact .ok formal.nil
  · rename_i other found
    exact .ok (passage_single (textual.phrase_of_asText found))
  · exact textual.line formal writer

/-- The ending of a file's name stands in front of the name. -/
theorem heightFieldSource_gives (sources : cls.readsText "source" = true)
    (kinds : cls.readsText "hfType" = true) (set : (object.value? "source").isSome)
    (endings : ∀ file, object.value? "source" = some (.text file) → namesImage file = true →
      ∀ ending, ending <:+ file.toList → holds ending) :
    Gives (Passage holds) (heightFieldSource writer object) := by
  obtain ⟨source, found⟩ := Option.isSome_iff_exists.1 set
  have textual := legible.texts sources found
  unfold heightFieldSource
  rw [Object.required, found]
  dsimp only [bind, Except.bind]
  split
  · rename_i file
    split
    · rename_i image
      have held : Phrase holds file := textual.phrase_of_asText rfl
      apply (textIfSet_gives legible kinds formal writer).bind
      intro kind kindHeld
      have ending : Phrase holds (imageType file) := by
        unfold imageType
        split
        · rename_i ending last
          rw [Phrase, String.toList_ofList]
          apply formal.congr (marks_lowered ending).symm
          exact endings file found image ending (afterLast_suffix last)
        · exact formal.words rfl
      have chosen : Phrase holds (kind.getD (imageType file)) := phrase_getD kindHeld ending
      have spaced : Phrase holds (kind.getD (imageType file) ++ " ") :=
        formal.beside chosen (formal.words rfl)
      exact .ok (passage_single (formal.beside spaced (formal.quote held)))
    · exact .ok (passage_single (textual.phrase_of_asText rfl))
  · exact textual.line formal writer

theorem heightFieldGamma_gives (gammas : cls.readsText "gamma" = true) :
    Gives (Passage holds) (heightFieldGamma writer object) := by
  unfold heightFieldGamma
  split
  · exact .ok formal.nil
  · rename_i gamma found
    split
    · exact .ok (passage_single (formal.words rfl))
    · exact (legible.texts gammas found).lineAfter formal writer rfl

theorem isoSurfaceTrace_gives (traces : cls.readsText "maxTrace" = true) :
    Gives (Passage holds) (isoSurfaceTrace writer object) := by
  unfold isoSurfaceTrace
  split
  · exact .ok formal.nil
  · rename_i trace found
    split
    · exact .ok (passage_single (formal.words rfl))
    · exact (legible.texts traces found).lineAfter formal writer rfl

/-- The two lines of a formula have the property together only. -/
theorem juliaFormula_gives (kinds : cls.readsText "type" = true)
    (set : (object.value? "type").isSome) : Gives (Passage holds) (juliaFormula writer object) := by
  apply (required_gives legible kinds set).bind
  intro kind textual
  dsimp only
  split
  · exact textual.line formal writer
  · rename_i algebra function found
    obtain ⟨content, said, cut⟩ := Option.bind_eq_some_iff.1 found
    have held : holds (algebra ++ function) := by
      have whole := textual.phrase_of_asText said
      rw [Phrase, splitAtFirst_eq cut] at whole
      apply formal.congr _ whole
      simp [marks, isMark]
    have named : holds (algebra ++ (String.ofList function).toList) := by
      rwa [String.toList_ofList]
    apply Gives.ok
    apply passage_pair
    rw [String.toList_ofList]
    split
    · rename_i exponents same _
      rw [same] at named
      have numbers := marks_numbers exponents.components
      apply formal.congr _ named
      simp only [String.toList_append, marks_append, numbers]
      rfl
    · exact named

theorem juliaSlice_gives (slices : cls.readsText "slice" = true)
    (distances : cls.readsText "distance" = true) :
    Gives (Passage holds) (juliaSlice writer object) := by
  unfold juliaSlice
  split
  · exact .ok formal.nil
  · rename_i slice found
    apply (textIfSet_gives legible distances formal writer).bind
    intro distance distanceHeld
    apply ((legible.texts slices found).verbatim formal writer).bind
    intro text held
    have start : Phrase holds (distance.getD "0") := phrase_getD distanceHeld (formal.words rfl)
    have cut : Phrase holds ("slice " ++ text ++ ", ") :=
      formal.beside (formal.beside (formal.words rfl) held) (formal.words rfl)
    exact .ok (passage_single (formal.beside cut start))

theorem precomputed_gives (depths : cls.readsText "precomputeDepth" = true) :
    Gives (Passage holds) (precomputed writer object) := by
  unfold precomputed
  split
  · exact .ok formal.nil
  · rename_i depth found
    dsimp only
    split
    · exact .ok formal.nil
    · apply ((legible.texts depths found).verbatim formal writer).bind
      intro text held
      have axes : marks (", ".intercalate (List.map Prod.snd (List.filter
          (fun axis => object.flag? axis.1 == some true)
          [("precomputeX", "x"), ("precomputeY", "y"), ("precomputeZ", "z")]))).toList = [] := by
        apply formal_unmarked.intercalate rfl
        intro part member
        obtain ⟨axis, chosen, rfl⟩ := List.mem_map.1 member
        have words : ∀ axis ∈ [("precomputeX", "x"), ("precomputeY", "y"), ("precomputeZ", "z")],
            marks axis.2.toList = [] := by
          decide
        exact words axis (List.mem_filter.1 chosen).1
      have cut : Phrase holds ("precompute " ++ text ++ ", ") :=
        formal.beside (formal.beside (formal.words rfl) held) (formal.words rfl)
      exact .ok (passage_single (formal.beside cut (formal.words axes)))

theorem polynomialTerms_gives (coefficients : cls.readsText "coefficients" = true)
    (set : (object.value? "coefficients").isSome) :
    Gives (Passage holds) (polynomialTerms writer object) := by
  apply (required_gives legible coefficients set).bind
  intro value textual
  split
  · rename_i terms found
    have each : ∀ term ∈ terms, Gives (Phrase holds) (polynomialTerm writer term) := by
      intro term member
      unfold polynomialTerm
      split
      · rename_i x y z coefficient _
        apply Gives.ok
        apply formal.words
        simp only [String.toList_append, marks_append, marks_number]
        rfl
      · exact (textual.items found term member).verbatim formal writer
    apply (Gives.mapM each).bind
    exact fun texts held => .ok (formal.join (separated_held formal held))
  · exact textual.line formal writer

theorem quadricCoefficients_gives (coefficients : cls.readsText "coefficients" = true)
    (set : (object.value? "coefficients").isSome) :
    Gives (Passage holds) (quadricCoefficients writer object) := by
  apply (required_gives legible coefficients set).bind
  intro value textual
  split
  · rename_i a b c d e f g h i j found
    have each := textual.items found
    have chosen (items : List Value) (within : items ⊆ [a, b, c, d, e, f, g, h, i, j]) :
        Gives (Phrase holds) (joined writer items) :=
      joined_gives formal (fun item member => each item (within member)) writer
    apply (chosen [a, b, c] (by simp)).bind
    intro squares squaresHeld
    apply (chosen [d, e, f] (by simp)).bind
    intro products productsHeld
    apply (chosen [g, h, i] (by simp)).bind
    intro linear linearHeld
    apply ((each j (by simp)).verbatim formal writer).bind
    intro constant constantHeld
    have first : Phrase holds ("<" ++ squares ++ ">, <") :=
      formal.beside (formal.beside (formal.words rfl) squaresHeld) (formal.words rfl)
    have second : Phrase holds ("<" ++ squares ++ ">, <" ++ products ++ ">, <") :=
      formal.beside (formal.beside first productsHeld) (formal.words rfl)
    have third :
        Phrase holds ("<" ++ squares ++ ">, <" ++ products ++ ">, <" ++ linear ++ ">, ") :=
      formal.beside (formal.beside second linearHeld) (formal.words rfl)
    exact .ok (passage_single (formal.beside third constantHeld))
  · exact textual.line formal writer

end Composers

/-- The corners and normals of a triangle stand in one line. -/
theorem triangleCorners_gives {holds : List Char → Prop} (formal : Formal holds) {cls : Class}
    {object : Object} (legible : object.Legible holds cls) (writer : NodeWriter)
    (corners : ∀ name ∈ ["corner1", "corner2", "corner3"], cls.readsText name = true)
    (normals : ∀ name ∈ ["normal1", "normal2", "normal3"], cls.readsText name = true)
    (set : ∀ name ∈ ["corner1", "corner2", "corner3"], (object.value? name).isSome) :
    Gives (Passage holds) (triangleCorners writer object) := by
  have cornersGiven : ∀ name ∈ ["corner1", "corner2", "corner3"],
      Gives (Phrase holds) (requiredText writer object name) := by
    intro name member
    apply (required_gives legible (corners name member) (set name member)).bind
    exact fun value textual => textual.verbatim formal writer
  apply (Gives.mapM cornersGiven).bind
  intro corners cornersHeld
  split
  · exact .ok (passage_single (formal.intercalate rfl cornersHeld))
  · rename_i values found
    have valuesTextual : ∀ value ∈ values, value.Textual holds := by
      intro value member
      unfold smoothNormals? at found
      split at found
      · obtain ⟨name, listed, read⟩ := exists_of_forall₂_right (mapM_some_iff.1 found) member
        exact legible.texts (normals name listed) read
      · contradiction
    apply (Gives.mapM fun value member => (valuesTextual value member).verbatim formal writer).bind
    intro normals normalsHeld
    apply Gives.ok
    apply passage_single
    apply formal.intercalate rfl
    intro part member
    obtain ⟨pair, paired, inPair⟩ := List.mem_flatten.1 member
    rw [← List.map_uncurry_zip_eq_zipWith] at paired
    obtain ⟨⟨corner, normal⟩, zipped, rfl⟩ := List.mem_map.1 paired
    obtain ⟨cornerMember, normalMember⟩ := List.of_mem_zip zipped
    have cases : part = corner ∨ part = normal := by simpa using inPair
    rcases cases with rfl | rfl
    · exact cornersHeld part cornerMember
    · exact normalsHeld part normalMember

theorem cameraBokeh_gives {holds : List Char → Prop} (blockwise : Blockwise holds) {cls : Class}
    {object : Object} (legible : object.Legible holds cls) (writer : NodeWriter)
    (colors : cls.readsText "bokeh" = true) :
    Gives (Passage holds) (cameraBokeh writer object) := by
  apply (textIfSet_gives legible colors blockwise.toFormal writer).bind
  intro shown held
  cases shown with
  | none => exact .ok blockwise.nil
  | some color =>
      have braced := blockwise.braced (blockwise.braced (held color rfl))
      apply Gives.ok
      apply passage_single
      apply blockwise.congr _ braced
      have opening : marks "bokeh \x7b pigment \x7b ".toList = ['\x7b', '\x7b'] := rfl
      have closing : marks " \x7d \x7d".toList = ['\x7d', '\x7d'] := rfl
      simp only [String.toList_append, marks_append, opening, closing]
      simp [marks, isMark]

section Sweep

variable {holds : List Char → Prop} (formal : Formal holds) (writer : NodeWriter)
include formal

/-- A required attribute that is read as text is written when it is set. -/
theorem requiredText_delivers {cls : Class} {object : Object} (legible : object.Legible holds cls)
    {name : String} (text : cls.readsText name = true) :
    Delivers (object.value? name).isSome (Phrase holds) (requiredText writer object name) := by
  have delivered := required_text legible text fun value textual => textual.verbatim formal writer
  exact delivered.congr (by simp)

/-- A sphere in a sweep is written when its center and its radius are set. -/
theorem sweptSphere_delivers {cls : Class} {sphere : Object} (legible : sphere.Legible holds cls)
    (centers : cls.readsText "center" = true) (radii : cls.readsText "radius" = true)
    (named : sphere.className = "Sphere") (identity : Nat) :
    Delivers ((sphere.value? "center").isSome ∧ (sphere.value? "radius").isSome) (Phrase holds)
      (sweptSphere writer (.node identity sphere)) := by
  have taken : (Value.node identity sphere).asObject?.filter (·.className == "Sphere") =
      some sphere := by
    simp [Value.asObject?, named]
  unfold sweptSphere
  rw [taken]
  apply (requiredText_delivers formal writer legible centers).bind
  intro center centerHeld
  have joined := (requiredText_delivers formal writer legible radii).map (fun radius radiusHeld =>
    (formal.beside (formal.beside centerHeld (formal.words rfl)) radiusHeld :
      Phrase holds (center ++ ", " ++ radius)))
  exact joined

/-- A sweep is written if the centre and the radius of each sphere are set. -/
theorem sweptSpheres_delivers {object : Object} (named : object.className = "SphereSweep")
    {value : Value} (found : object.value? "spheres" = some value) {cls : Class}
    (centers : cls.readsText "center" = true) (radii : cls.readsText "radius" = true)
    (sweep : (∃ code, value = .code code ∧ Phrase holds code) ∨
      ∃ items, value = .list items ∧ ∀ item ∈ items, ∃ identity sphere,
        item = .node identity sphere ∧ sphere.className = "Sphere" ∧ sphere.Legible holds cls) :
    Delivers object.Swept (Passage holds) (sweptSpheres writer object) := by
  unfold sweptSpheres
  rw [Object.required, found]
  rcases sweep with ⟨code, rfl, held⟩ | ⟨items, rfl, spheres⟩
  · refine .of_gives (.ok (passage_single held)) ?_
    intro _ items listed
    rw [found] at listed
    cases listed
  · have each : ∀ item ∈ items,
        Delivers (∀ sphere, item.Holds sphere →
            (sphere.value? "center").isSome ∧ (sphere.value? "radius").isSome)
          (Phrase holds) (sweptSphere writer item) := by
      intro item member
      obtain ⟨identity, sphere, rfl, sphereNamed, legible⟩ := spheres item member
      have delivered :=
        sweptSphere_delivers formal writer legible centers radii sphereNamed identity
      exact delivered.congr (by simp [Value.holds_node_iff])
    have counted (texts : List String) (held : ∀ text ∈ texts, Phrase holds text) :
        Passage holds ((toString items.length ++ ",") :: separated texts) := by
      apply formal.join
      rw [List.forall_mem_cons]
      exact ⟨formal.beside (formal.words (marks_natural _)) (formal.words rfl),
        separated_held formal held⟩
    have lines := (Delivers.mapM each).map counted
    apply lines.congr
    constructor
    · intro all _ others listed sphere inside
      rw [found] at listed
      obtain rfl := Value.list.inj (Option.some.inj listed)
      obtain ⟨item, member, within⟩ := Value.holds_list_iff.1 inside
      exact all item member sphere within
    · intro swept item member sphere within
      exact swept named items found sphere (Value.holds_list_iff.2 ⟨item, member, within⟩)

end Sweep

end Layout

end SceneCatalog
