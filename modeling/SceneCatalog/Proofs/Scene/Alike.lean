import SceneCatalog.Proofs.Scene.Mirrors

/-
This file shows that clauses write two objects the same that read the same from the attributes of
the clause, provided that the objects within are written the same.
-/

namespace SceneCatalog

/-- The writers write objects of less depth the same. -/
def AgreeBelow (depth : Nat) (writer other : NodeWriter) : Prop :=
  ∀ object : Object, object.depth < depth → writer object = other object

theorem AgreeBelow.mono {depth smaller : Nat} {writer other : NodeWriter}
    (agree : AgreeBelow depth writer other) (less : smaller ≤ depth) :
    AgreeBelow smaller writer other :=
  fun object below => agree object (Nat.lt_of_lt_of_le below less)

section Values

variable {writer other : NodeWriter}

/-- Writers that agree inside a list agree inside each of its items. -/
theorem AgreeBelow.item {items : List Value}
    (agree : AgreeBelow (Value.list items).depth writer other) {item : Value}
    (member : item ∈ items) : AgreeBelow item.depth writer other := by
  rw [Value.depth] at agree
  exact agree.mono (Value.depth_le_of_mem member)

end Values

/-- Constants hold no objects. -/
theorem Constant.depth_of_toValue {constant : Constant} {value : Value}
    (found : constant.toValue? = some value) : value.depth = 0 := by
  cases constant with
  | null => contradiction
  | _ =>
      rw [← Option.some.inj found]
      rfl

/-- What is read is no deeper than the object: constants hold no objects. -/
theorem Object.depth_le_of_value {object : Object} {name : String} {value : Value}
    (found : object.value? name = some value) : value.depth ≤ object.depth := by
  rw [Object.value?, Object.get] at found
  split at found
  · rename_i read there
    split at there
    · rename_i shown first
      obtain rfl : shown = some value := (Except.ok.inj there).trans found
      obtain ⟨level, member, read⟩ := List.exists_of_findSome?_eq_some first
      rw [Level.read?] at read
      split at read
      · rw [Constant.depth_of_toValue (Option.some.inj read)]
        exact Nat.zero_le _
      · obtain ⟨slot, fieldFound, shown⟩ := Option.map_eq_some_iff.1 read
        obtain ⟨field, inFields, rfl⟩ := Option.map_eq_some_iff.1 fieldFound
        have stored : object.Stores value :=
          ⟨field.slot, List.mem_flatMap.2 ⟨level, member,
            List.mem_map_of_mem (List.mem_of_find?_eq_some inFields)⟩, shown⟩
        exact depth_le_of_stored stored
    · contradiction
  · contradiction

/-- Objects of one class show values in these attributes that mirror each other. -/
structure Object.Mirrors (first : Object) (names : List String) (writer other : NodeWriter)
    (second : Object) : Prop where
  className : first.className = second.className
  reads : ∀ name ∈ names,
    Option.Rel (Value.Mirrors writer other) (first.value? name) (second.value? name)

namespace Object.Mirrors

variable {names : List String} {writer other : NodeWriter} {first second : Object}

theorem mono (mirrors : first.Mirrors names writer other second) {fewer : List String}
    (within : fewer ⊆ names) : first.Mirrors fewer writer other second where
  className := mirrors.className
  reads name member := mirrors.reads name (within member)

variable (mirrors : first.Mirrors names writer other second) (name : String)
include mirrors

/-- Mirroring objects both lack an attribute, or have values for it that mirror each other. -/
theorem cases_value (member : name ∈ names) :
    (first.value? name = none ∧ second.value? name = none) ∨
      ∃ value twin, first.value? name = some value ∧ second.value? name = some twin ∧
        value.Mirrors writer other twin := by
  have read := mirrors.reads name member
  generalize first.value? name = shown, second.value? name = later at read
  cases read with
  | none => exact .inl ⟨rfl, rfl⟩
  | some here => exact .inr ⟨_, _, rfl, rfl, here⟩

/-- Whatever is done with a value if there is one. -/
theorem ifSet {Item : Type} (member : name ∈ names) (unset : Item) {shown later : Value → Item}
    (same : ∀ value twin, value.Mirrors writer other twin → shown value = later twin) :
    (match first.value? name with | some value => shown value | none => unset) =
      match second.value? name with | some value => later value | none => unset := by
  obtain ⟨unset, alsoUnset⟩ | ⟨value, twin, shown, alsoShown, here⟩ :=
    mirrors.cases_value name member
  · rw [unset, alsoUnset]
  · rw [shown, alsoShown]
    exact same value twin here

/-- Whatever is done with a value that has to be set. -/
theorem required {Item : Type} (member : name ∈ names)
    {shown later : Value → Except SceneError Item}
    (same : ∀ value twin, value.Mirrors writer other twin → shown value = later twin) :
    (first.required name >>= shown) = (second.required name >>= later) := by
  rw [Object.required, Object.required, mirrors.className]
  obtain ⟨unset, alsoUnset⟩ | ⟨value, twin, shown, alsoShown, here⟩ :=
    mirrors.cases_value name member
  · rw [unset, alsoUnset]
    rfl
  · rw [shown, alsoShown]
    exact same value twin here

/-- Whatever is seen in the values. -/
theorem inspect {Item : Type} (member : name ∈ names) {look : Value → Option Item}
    (same : ∀ value twin, value.Mirrors writer other twin → look value = look twin) :
    (first.value? name).bind look = (second.value? name).bind look := by
  obtain ⟨unset, alsoUnset⟩ | ⟨value, twin, shown, alsoShown, here⟩ :=
    mirrors.cases_value name member
  · rw [unset, alsoUnset]
  · rw [shown, alsoShown]
    exact same value twin here

theorem flag (member : name ∈ names) : first.flag? name = second.flag? name :=
  mirrors.inspect name member fun _ _ here => here.asBool

theorem vector (member : name ∈ names) :
    (first.value? name).bind Value.asVector? = (second.value? name).bind Value.asVector? :=
  mirrors.inspect name member fun _ _ here => here.asVector

/-- Whatever is done instead of nothing with a value if there is one. -/
theorem ifUnset {Item : Type} (member : name ∈ names) {unset : Item} {shown later : Value → Item}
    (same : ∀ value twin, value.Mirrors writer other twin → shown value = later twin) :
    (match first.value? name with | none => unset | some value => shown value) =
      match second.value? name with | none => unset | some value => later value := by
  obtain ⟨unset, alsoUnset⟩ | ⟨value, twin, shown, alsoShown, here⟩ :=
    mirrors.cases_value name member
  · rw [unset, alsoUnset]
  · rw [shown, alsoShown]
    exact same value twin here

theorem isNone (member : name ∈ names) :
    (first.value? name).isNone = (second.value? name).isNone := by
  obtain ⟨unset, alsoUnset⟩ | ⟨value, twin, shown, alsoShown, _⟩ := mirrors.cases_value name member
  · rw [unset, alsoUnset]
  · rw [shown, alsoShown, Option.isNone_some, Option.isNone_some]

theorem requiredText (member : name ∈ names) :
    requiredText writer first name = requiredText other second name :=
  mirrors.required name member fun _ _ here => here.verbatim

/-- Mirroring objects write an optional attribute the same. -/
theorem textIfSet (member : name ∈ names) :
    textIfSet writer first name = textIfSet other second name :=
  mirrors.ifSet name member _ fun _ _ here => by rw [here.verbatim]

omit mirrors in
/-- Mirroring objects read several attributes the same, or both miss one. -/
theorem values {chosen : List String} (mirrors : first.Mirrors names writer other second)
    (within : chosen ⊆ names) :
    Option.Rel (List.Forall₂ (Value.Mirrors writer other)) (chosen.mapM first.value?)
      (chosen.mapM second.value?) := by
  induction chosen with
  | nil => exact .some .nil
  | cons name rest inductionHypothesis =>
      obtain ⟨member, others⟩ := List.cons_subset.1 within
      rw [List.mapM_cons, List.mapM_cons]
      obtain ⟨unset, alsoUnset⟩ | ⟨value, twin, shown, alsoShown, here⟩ :=
        mirrors.cases_value name member
      · rw [unset, alsoUnset]
        exact .none
      · have later := inductionHypothesis others
        rw [shown, alsoShown]
        generalize rest.mapM first.value? = found, rest.mapM second.value? = twins at later
        cases later with
        | none => exact .none
        | some each => exact .some (.cons here each)

end Object.Mirrors

/-- The objects within a value are exchanged for others of their classes, and what a sweep reads of
its spheres is exchanged like any value. -/
structure Rewriting (image : Value → Value) (objectImage : Object → Object) : Prop where
  single : ∀ value, value.asList? = none → value.isNode = false → image value = value
  list : ∀ items, image (.list items) = .list (items.map image)
  node : ∀ identity object, image (.node identity object) = .node identity (objectImage object)
  className : ∀ object, (objectImage object).className = object.className
  sphere : ∀ name ∈ ["center", "radius"], ∀ object,
    (objectImage object).value? name = (object.value? name).map image

namespace Rewriting

variable {image : Value → Value} {objectImage : Object → Object} {writer other : NodeWriter}

theorem refl : Rewriting id id where
  single _ _ _ := rfl
  list items := congrArg Value.list (List.map_id items).symm
  node _ _ := rfl
  className _ := rfl
  sphere _ _ _ := Option.map_id'.symm

/-- An exchange that commutes with reading makes an object mirror its image. -/
theorem objectMirrors (rewriting : Rewriting image objectImage) {object : Object}
    {names : List String}
    (reads : ∀ name ∈ names, (objectImage object).value? name = (object.value? name).map image)
    (within : ∀ name ∈ names, ∀ value, object.value? name = some value →
      value.Mirrors writer other (image value)) :
    object.Mirrors names writer other (objectImage object) where
  className := (rewriting.className object).symm
  reads name member := by
    rw [reads name member]
    cases found : object.value? name with
    | none => exact .none
    | some value => exact .some (within name member value found)

/-- Values mirror their images if the writers agree on the objects that are exchanged. -/
theorem mirrors (rewriting : Rewriting image objectImage) {value : Value}
    (agree : AgreeBelow value.depth writer (other ∘ objectImage)) :
    value.Mirrors writer other (image value) := by
  have within (depth : Nat) : ∀ value : Value, value.depth ≤ depth →
      AgreeBelow value.depth writer (other ∘ objectImage) →
        value.Mirrors writer other (image value) := by
    -- What a sphere reads is no part of its value, but it is less deep.
    induction depth using Nat.strong_induction_on with
    | _ depth depthHypothesis =>
      intro value deep agree
      induction value using Value.induction_items with
      | list items inductionHypothesis =>
          rw [Value.depth] at deep
          rw [rewriting.list]
          refine .list (List.forall₂_map_right_iff.2 (List.forall₂_same.2 fun item member => ?_))
          exact inductionHypothesis item member ((Value.depth_le_of_mem member).trans deep)
            (agree.item member)
      | single value alone =>
          cases value with
          | list items => contradiction
          | node identity object =>
              rw [Value.depth] at deep agree
              rw [rewriting.node]
              have sphere :
                  object.Mirrors ["center", "radius"] writer other (objectImage object) := by
                apply rewriting.objectMirrors fun name member => rewriting.sphere name member object
                intro name _ value found
                have less := Object.depth_le_of_value found
                exact depthHypothesis object.depth deep value less
                  (agree.mono (less.trans (Nat.le_succ _)))
              exact .node sphere.className (agree object (Nat.lt_succ_self _)) sphere.requiredText
          | _ =>
              rw [rewriting.single _ rfl rfl]
              exact .single rfl rfl
  exact within value.depth value (Nat.le_refl _) agree

end Rewriting

/-- A value mirrors itself if the writers agree on the objects in it. -/
theorem AgreeBelow.mirrors {value : Value} {writer other : NodeWriter}
    (agree : AgreeBelow value.depth writer other) : value.Mirrors writer other value :=
  Rewriting.refl.mirrors agree

/-- Objects of one class read the same from these attributes, and two writers write the objects in
what is read the same. -/
structure Object.Alike (first : Object) (names : List String) (writer other : NodeWriter)
    (second : Object) : Prop where
  className : first.className = second.className
  reads : ∀ name ∈ names, first.value? name = second.value? name
  agree : ∀ name ∈ names, ∀ value, first.value? name = some value →
    AgreeBelow value.depth writer other

/-- Objects that read the same mirror each other. -/
theorem Object.Alike.mirrors {names : List String} {writer other : NodeWriter}
    {first second : Object} (alike : first.Alike names writer other second) :
    first.Mirrors names writer other second where
  className := alike.className
  reads name member := by
    rw [← alike.reads name member]
    cases found : first.value? name with
    | none => exact .none
    | some value => exact .some (alike.agree name member value found).mirrors

/-- One writer writes all objects like itself. -/
theorem Object.alike_of_reads {names : List String} {first second : Object}
    (sameClass : first.className = second.className)
    (reads : ∀ name ∈ names, first.value? name = second.value? name) (writer : NodeWriter) :
    first.Alike names writer writer second where
  className := sameClass
  reads := reads
  agree _ _ _ _ _ _ := rfl

/-! What is written of an object are the attributes that are read for it. -/

def Piece.reads : Piece → List String
  | words _ => []
  | value name => [name]
  | quoted name => [name]
  | angled name => [name]
  | keyed _ name => [name]
  | optional _ name => [name]

/-- The attributes that lines composed by themselves read, and those that keywords do. -/
def Layout.composedNames : String → List String
  | "Camera" => ["type", "cylinderType", "angle", "vertAngle", "bokeh"]
  | "HeightField" => ["source", "hfType", "gamma"]
  | "IsoSurface" => ["maxTrace"]
  | "JuliaFractal" => ["type", "power", "slice", "distance"]
  | "LightSource" => ["type"]
  | "Parametric" => ["precomputeDepth", "precomputeX", "precomputeY", "precomputeZ"]
  | "Polynomial" => ["coefficients"]
  | "Quadric" => ["coefficients"]
  | "SphereSweep" => ["spheres"]
  | "Triangle" => ["corner1", "corner2", "corner3", "smooth", "normal1", "normal2", "normal3"]
  | _ => []

def Clause.reads (className : String) : Clause → List String
  | line pieces => pieces.flatMap Piece.reads
  | setting name _ => [name]
  | file name _ => [name]
  | bare name => [name]
  | flag name _ => [name]
  | toggle name _ => [name]
  | switchedOff name _ => [name]
  | parts name => [name]
  | nested name _ => [name]
  | points name _ _ => [name]
  | lines _ => Layout.composedNames className

/-- The flag that puts the section into the block. -/
def Section.switches : Section → List String
  | always _ => []
  | whileOn switch _ => [switch]
  | blockWhileOn switch _ _ => [switch]

def Section.reads (className : String) (part : Section) : List String :=
  part.switches ++ part.clauses.flatMap (Clause.reads className)

def Layout.reads (layout : Layout) (className : String) : List String :=
  layout.sections.flatMap (Section.reads className)

section Writing

variable {names : List String} {writer other : NodeWriter} {first second : Object}

/-- Objects that mirror each other in what a piece reads write the piece the same. -/
theorem Piece.write_congr {piece : Piece}
    (mirrors : first.Mirrors piece.reads writer other second) :
    piece.write writer first = piece.write other second := by
  cases piece with
  | words text => rfl
  | value name => exact mirrors.requiredText _ (.head _)
  | quoted name => exact mirrors.required _ (.head _) fun _ _ here => here.inline 0
  | angled name => exact mirrors.required _ (.head _) fun _ _ here => here.angled
  | keyed vocabulary name =>
      exact mirrors.required _ (.head _) fun _ _ here => here.keyed vocabulary
  | optional lead name => rw [write, write, mirrors.textIfSet _ (.head _)]

/-- Each clause writes the same, provided that those do which compose lines by themselves. -/
theorem Clause.write_congr {className : String} {clause : Clause}
    (mirrors : first.Mirrors (clause.reads className) writer other second)
    (composed : ∀ compose, clause = .lines compose → compose writer first = compose other second) :
    clause.write writer first = clause.write other second := by
  cases clause with
  | line pieces =>
      have each : ∀ piece ∈ pieces, piece.write writer first = piece.write other second := by
        intro piece member
        apply Piece.write_congr
        exact mirrors.mono fun name inside => List.mem_flatMap.2 ⟨piece, member, inside⟩
      rw [write, write, mapM_congr each]
  | setting name keyword =>
      apply mirrors.ifSet _ (.head _)
      intro value twin here
      rw [here.verbatim]
  | file name keyword =>
      apply mirrors.ifSet _ (.head _)
      intro value twin here
      rw [here.inline]
  | bare name =>
      apply mirrors.ifSet _ (.head _)
      intro value twin here
      rw [here.verbatim]
  | flag name keyword => rw [write, write, mirrors.flag _ (.head _)]
  | toggle name keyword => rw [write, write, mirrors.flag _ (.head _)]
  | switchedOff name text => rw [write, write, mirrors.flag _ (.head _)]
  | parts name =>
      apply mirrors.required _ (.head _)
      intro value twin here
      rw [here.body]
  | nested name keyword =>
      apply mirrors.ifSet _ (.head _)
      intro value twin here
      rw [here.nested]
  | points name perRow counted =>
      apply mirrors.required _ (.head _)
      intro value twin here
      rw [here.pointLines]
  | lines compose => rw [write, write, composed compose rfl]

/-- Objects that mirror each other in what a section reads write the section the same. -/
theorem Section.write_congr {className : String} {part : Section}
    (mirrors : first.Mirrors (part.reads className) writer other second)
    (composed : ∀ compose, .lines compose ∈ part.clauses →
      compose writer first = compose other second) :
    part.write writer first = part.write other second := by
  have each : ∀ clause ∈ part.clauses, clause.write writer first = clause.write other second := by
    intro clause member
    have within : first.Mirrors (clause.reads className) writer other second :=
      mirrors.mono fun name inside =>
        List.mem_append_right _ (List.mem_flatMap.2 ⟨clause, member, inside⟩)
    apply Clause.write_congr within
    rintro compose rfl
    exact composed compose member
  have clauses : Clause.writeAll writer first part.clauses =
      Clause.writeAll other second part.clauses := by
    rw [Clause.writeAll_eq, Clause.writeAll_eq, mapM_congr each]
  cases part with
  | always _ => exact clauses
  | whileOn switch _ =>
      rw [Section.clauses] at clauses
      rw [Section.write, Section.write, mirrors.flag _ (.head _), clauses]
  | blockWhileOn switch keyword _ =>
      rw [Section.clauses] at clauses
      rw [Section.write, Section.write, mirrors.flag _ (.head _), clauses]

end Writing

end SceneCatalog
