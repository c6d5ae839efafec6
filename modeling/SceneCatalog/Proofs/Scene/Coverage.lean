import SceneCatalog.Proofs.Object.Assignment
import SceneCatalog.Proofs.Scene.Completeness
import SceneCatalog.Proofs.Scene.Sizes

/-
This file states which attributes of a class can be seen in the texts of its objects.
-/

namespace SceneCatalog

/-- The text of an object of a scene or of the settings of one. -/
def Object.blockText (object : Object) (stops : Nat) : Except SceneError String :=
  if object.className == "GlobalSettings" then object.settingsText stops
  else object.sceneText stops

/-- Two objects that read the same from all other attributes have different texts. -/
def Class.Matters (cls : Class) (name : String) : Prop :=
  ∃ first second, cls.Reachable first ∧ cls.Reachable second ∧
    (∀ other, other ≠ name → first.get other = second.get other) ∧
    ∃ stops text otherText, first.blockText stops = .ok text ∧
      second.blockText stops = .ok otherText ∧ text ≠ otherText

namespace Class

/-- Attributes that others are seen beside. -/
def companions : String → List (String × Slot)
  | "Camera" => [("type", .literal (.text "cylinder")), ("angle", .raw "1")]
  | "GlobalSettings" => [("photon", .literal (.bool true)), ("radiosity", .literal (.bool true)),
    ("subsurface", .literal (.bool true))]
  | "HeightField" => [("source", .literal (.text "a"))]
  | "JuliaFractal" => [("type", .literal (.text "hypercomplex:pwr")), ("slice", .raw "1")]
  | "LightSource" => [("areaLight", .literal (.bool true)), ("axis1", .raw "1"),
    ("axis2", .raw "1"), ("size1", .raw "1"), ("size2", .raw "1")]
  | "Parametric" => [("precomputeDepth", .raw "1"), ("precomputeX", .literal (.bool true))]
  | "Triangle" => [("smooth", .literal (.bool true)), ("normal1", .raw "1"),
    ("normal2", .raw "1"), ("normal3", .raw "1")]
  | _ => []

/-- An object with what its class requires and with the companions. -/
def sample (cls : Class) : Object :=
  cls.run cls.blank (cls.own.required.map (fun rule => .assign rule.name (.raw "1")) ++
    (companions cls.name).map fun companion => .assign companion.1 companion.2)

/-- Slots of which one is seen. -/
def probes (rule : Attribute) : List Slot :=
  if rule.typeName == "boolean" then [.literal (.bool true), .literal (.bool false)]
  else [.raw "elsewhere", .literal (.list [.int 1, .int 1])]

end Class

namespace Layout

/-- One of the probes is stored and changes the size of the text. -/
def probed (layout : Layout) (cls : Class) (rule : Attribute) : Bool :=
  (Class.probes rule).any fun slot =>
    let changed := cls.after cls.sample (.assign rule.name slot)
    (changed.value? rule.name).isSome &&
      (layout.grows cls.name rule.name cls.sample changed ||
        layout.grows cls.name rule.name changed cls.sample)

/-- The sample is written, and all attributes change the size of its text, except for one. -/
def covers (layout : Layout) (cls : Class) : Bool :=
  cls.own.takesOptions && (cls.sample.value? "id").isNone &&
  (cls.own.required.all fun rule => (cls.sample.value? rule.name).isSome) &&
  (layout.sections.all fun part => part.clauses.all fun clause =>
    (clause.write Object.markup cls.sample).isOk) &&
  cls.own.attributes.all fun rule =>
    cls.name == "Triangle" && rule.name == "textures" ||
      rule.name != "id" && layout.probed cls rule

/-- Every layout shows all attributes of its class but the textures of triangles. -/
theorem ofBlocks_cover : (ofBlocks.all fun entry =>
    (catalog.class? entry.1).any fun cls => entry.2.covers cls) = true := by
  decide +kernel

/-- The layout of the objects of the class, or that of settings. -/
def ofBlock? (className : String) : Option Layout :=
  (ofBlocks.find? (·.1 == className)).map (·.2)

theorem mem_of_ofBlock {className : String} {layout : Layout}
    (found : ofBlock? className = some layout) : (className, layout) ∈ ofBlocks := by
  obtain ⟨entry, entryFound, rfl⟩ := Option.map_eq_some_iff.1 found
  have named : entry.1 = className := by simpa using List.find?_some entryFound
  exact named ▸ List.mem_of_find?_eq_some entryFound

theorem ofBlock_settings : ofBlock? "GlobalSettings" = some globalSettings := by
  rw [ofBlock?, ofBlocks, List.find?_cons_of_pos (by decide)]
  rfl

theorem ofBlock_other {className : String} (other : className ≠ "GlobalSettings") :
    ofBlock? className = ofClass? className := by
  rw [ofBlock?, ofBlocks, List.find?_cons_of_neg (by simpa using other.symm), ofClass?]

end Layout

namespace Object

/-- The text of a block is its markup, written at the stops. -/
theorem blockText_eq {object : Object} {layout : Layout}
    (found : Layout.ofBlock? object.className = some layout) (stops : Nat) :
    object.blockText stops = (object.writeAs layout markup).map (·.write stops) := by
  rw [blockText]
  split
  · rename_i settings
    rw [eq_of_beq settings, Layout.ofBlock_settings] at found
    rw [settingsText, Option.some.inj found]
  · rename_i other
    rw [Layout.ofBlock_other (by simpa using other)] at found
    rw [sceneText, markup_eq found]

/-- Nothing is missing from an object of the catalog when all required attributes are set. -/
theorem requireOwn_of_set {object : Object} {cls : Class}
    (known : catalog.class? object.className = some cls)
    (set : ∀ rule ∈ cls.own.required, (object.value? rule.name).isSome) :
    object.requireOwn = .ok () := by
  obtain ⟨_, there⟩ := (requireOwn_delivers known).ok_iff.2 set
  exact there

end Object

namespace Class

variable {cls : Class}

/-- The sample of a class is reachable. -/
theorem sample_reached (standard : cls.own.takesOptions = true) : cls.Reachable cls.sample :=
  ⟨cls.blank, _, .options SortedMap.empty standard rfl, rfl⟩

/-- An attribute that the block of a class does not read is never seen. -/
theorem not_matters_of_unread {layout : Layout} (found : Layout.ofBlock? cls.name = some layout)
    {name : String} (notId : name ≠ "id") (unread : name ∉ layout.reads cls.name) :
    ¬cls.Matters name := by
  rintro ⟨first, second, firstReached, secondReached, others, stops, text, otherText, written,
    otherWritten, different⟩
  have firstNamed := className_of_fits firstReached.fits
  have secondNamed := className_of_fits secondReached.fits
  have laid : (first.className, layout) ∈ Layout.ofBlocks :=
    firstNamed ▸ Layout.mem_of_ofBlock found
  have values : ∀ other, other ≠ name → first.value? other = second.value? other :=
    fun other apart => Object.value_of_get (others other apart)
  have sameClass : first.className = second.className := firstNamed.trans secondNamed.symm
  have block : first.writeAs layout Object.markup = second.writeAs layout Object.markup := by
    have identifier := Object.alike_of_others sameClass values
      (fun inside => notId (List.mem_singleton.1 inside) : name ∉ ["id"]) Object.markup
    rw [Object.writeAs_eq, Object.writeAs_eq, identifier.mirrors.textIfSet "id" (.head _),
      Object.interior_congr laid
        (Object.alike_of_others sameClass values (firstNamed ▸ unread) Object.markup).mirrors]
  rw [Object.blockText_eq (firstNamed ▸ found), block] at written
  rw [Object.blockText_eq (secondNamed ▸ found), written] at otherWritten
  exact different (Except.ok.inj otherWritten)

/-- An attribute matters when two objects that differ in it alone give two blocks. -/
theorem matters_of_blocks {layout : Layout} (found : Layout.ofBlock? cls.name = some layout)
    {name : String} {first second : Object} (firstReached : cls.Reachable first)
    (secondReached : cls.Reachable second)
    (others : ∀ other, other ≠ name → first.get other = second.get other)
    (blocks : ∃ block other, first.writeAs layout Object.markup = .ok block ∧
      second.writeAs layout Object.markup = .ok other ∧ block.write 0 ≠ other.write 0) :
    cls.Matters name := by
  obtain ⟨block, other, written, otherWritten, different⟩ := blocks
  have firstNamed := className_of_fits firstReached.fits
  have secondNamed := className_of_fits secondReached.fits
  refine ⟨first, second, firstReached, secondReached, others, 0, block.write 0, other.write 0, ?_,
    ?_, different⟩
  · rw [Object.blockText_eq (firstNamed ▸ found), written]
    rfl
  · rw [Object.blockText_eq (secondNamed ▸ found), otherWritten]
    rfl

/-- An attribute is seen if a probe of it is. -/
theorem matters_of_covers {layout : Layout} (known : catalog.class? cls.name = some cls)
    (found : Layout.ofBlock? cls.name = some layout) (covers : layout.covers cls = true)
    {rule : Attribute} (member : rule ∈ cls.own.attributes)
    (alive : ¬(cls.name = "Triangle" ∧ rule.name = "textures")) : cls.Matters rule.name := by
  simp only [Layout.covers, Bool.and_eq_true, Option.isNone_iff_eq_none, List.all_eq_true] at covers
  obtain ⟨⟨⟨⟨standard, bare⟩, required⟩, written⟩, attributes⟩ := covers
  have sampleReached := sample_reached standard
  have tested := attributes rule member
  simp only [Bool.or_eq_true, Bool.and_eq_true, beq_iff_eq, or_iff_right alive, bne_iff_ne,
    Layout.probed, List.any_eq_true] at tested
  obtain ⟨notId, slot, _, set, grows⟩ := tested
  have changedReached := sampleReached.after (.assign rule.name slot)
  have others : ∀ other, other ≠ rule.name →
      cls.sample.get other = (cls.after cls.sample (.assign rule.name slot)).get other :=
    fun other apart => (get_after_assign sampleReached.fits rule.name slot apart).symm
  generalize cls.after cls.sample (.assign rule.name slot) = changed at *
  have values : ∀ other, other ≠ rule.name → cls.sample.value? other = changed.value? other :=
    fun other apart => Object.value_of_get (others other apart)
  have sampleNamed := className_of_fits sampleReached.fits
  have changedNamed := className_of_fits changedReached.fits
  have sameClass : cls.sample.className = changed.className := sampleNamed.trans changedNamed.symm
  have laid := Layout.mem_of_ofBlock found
  have sampleRequired : cls.sample.requireOwn = .ok () :=
    Object.requireOwn_of_set (sampleNamed ▸ known) required
  have changedRequired : changed.requireOwn = .ok () := by
    apply Object.requireOwn_of_set (changedNamed ▸ known)
    intro needed neededMember
    by_cases same : needed.name = rule.name
    · rw [same, set]
    · rw [← values needed.name same, required needed neededMember]
  have sampleWritten : ∀ part ∈ layout.sections, ∀ clause ∈ part.clauses,
      ∃ entries, clause.write Object.markup cls.sample = .ok entries :=
    fun part partMember clause clauseMember =>
      exists_of_isOk (written part partMember clause clauseMember)
  rcases grows with grows | grows
  · exact matters_of_blocks found sampleReached changedReached others
      (Layout.texts_of_grows laid sameClass values sampleRequired changedRequired notId bare
        (fun part partMember clause clauseMember _ =>
          sampleWritten part partMember clause clauseMember) grows)
  · have changedBare : changed.value? "id" = none := (values "id" notId.symm).symm.trans bare
    have reverse : ∀ other, other ≠ rule.name → changed.get other = cls.sample.get other :=
      fun other apart => (others other apart).symm
    have reverseValues : ∀ other, other ≠ rule.name →
        changed.value? other = cls.sample.value? other :=
      fun other apart => (values other apart).symm
    refine matters_of_blocks found changedReached sampleReached reverse
      (Layout.texts_of_grows laid sameClass.symm reverseValues changedRequired sampleRequired notId
        changedBare ?_ grows)
    intro part partMember clause clauseMember unread
    rw [← Clause.write_unread laid sameClass values partMember clauseMember unread]
    exact sampleWritten part partMember clause clauseMember

end Class

/-- Nothing is written for the textures of triangles. -/
theorem Class.not_matters_textures {cls : Class} (triangle : cls.name = "Triangle") :
    ¬cls.Matters "textures" := by
  have found : Layout.ofBlock? cls.name = some Layout.triangle := by
    rw [triangle]
    rfl
  have unread : "textures" ∉ Layout.triangle.reads "Triangle" := by decide +kernel
  exact not_matters_of_unread found (by decide) (triangle.symm ▸ unread)

/-- Every attribute that the class of a scene or of settings declares itself changes the text of
some object, except for the textures of triangles. -/
theorem Class.matters_iff {className : String} {cls : Class}
    (known : catalog.class? className = some cls)
    (writes : className = "GlobalSettings" ∨ (Layout.ofClass? className).isSome)
    {rule : Attribute} (member : rule ∈ cls.own.attributes) :
    cls.Matters rule.name ↔ ¬(className = "Triangle" ∧ rule.name = "textures") := by
  have named : cls.name = className := (Catalog.class_known known).1
  obtain ⟨layout, found⟩ : ∃ layout, Layout.ofBlock? className = some layout := by
    by_cases settings : className = "GlobalSettings"
    · exact ⟨_, settings ▸ Layout.ofBlock_settings⟩
    · rw [Layout.ofBlock_other settings]
      exact Option.isSome_iff_exists.1 (writes.resolve_left settings)
  subst named
  constructor
  · rintro matters ⟨triangle, textures⟩
    rw [textures] at matters
    exact not_matters_textures triangle matters
  · intro alive
    have covers := List.all_eq_true.1 Layout.ofBlocks_cover _ (Layout.mem_of_ofBlock found)
    rw [known, Option.any_some] at covers
    exact matters_of_covers known found covers member alive

theorem Class.matters_iff_radius :
    catalog.class? "Sphere" = some Catalog.sphereClass ∧ (Layout.ofClass? "Sphere").isSome ∧
      ∃ rule ∈ Catalog.sphereClass.own.attributes, rule.name = "radius" ∧
        Catalog.sphereClass.Matters rule.name := by
  refine ⟨catalog_sphere, rfl, _, .tail _ (.head _), rfl, ?_⟩
  exact (Class.matters_iff catalog_sphere (.inr rfl) (.tail _ (.head _))).2 (by decide)

def Catalog.triangleClass : Class := ⟨triangle, [primitive]⟩

theorem catalog_triangle : catalog.class? "Triangle" = some Catalog.triangleClass :=
  Catalog.class_of_parent (by rfl) (by rfl) rfl rfl (by decide) (by decide)

/-- Triangles declare textures, and no text shows them. -/
theorem Class.triangle_textures_unseen :
    catalog.class? "Triangle" = some Catalog.triangleClass ∧
      (Layout.ofClass? "Triangle").isSome ∧
      (∃ rule ∈ Catalog.triangleClass.own.attributes, rule.name = "textures") ∧
      ¬Catalog.triangleClass.Matters "textures" := by
  refine ⟨catalog_triangle, rfl, ?_, Class.not_matters_textures rfl⟩
  have declared : (Catalog.triangleClass.own.attributes.any (·.name == "textures")) = true := by
    decide +kernel
  simpa using declared

end SceneCatalog
