import SceneCatalog.Proofs.Scene.Bodies
import SceneCatalog.Proofs.Scene.Completeness

/-
This file says which lines of a list end with a comma, and that other lines of the list follow them.
-/

namespace SceneCatalog

/-! Lines that end with a comma. -/

def EndsInComma (text : String) : Prop := text.toList.getLast? = some ','

instance (text : String) : Decidable (EndsInComma text) :=
  inferInstanceAs (Decidable (text.toList.getLast? = some ','))

/-- A text in two parts ends as the second does, or as the first if the second is empty. -/
theorem endsInComma_append (first second : String) :
    EndsInComma (first ++ second) ↔ EndsInComma second ∨ second = "" ∧ EndsInComma first := by
  rw [EndsInComma, String.toList_append, List.getLast?_append, EndsInComma, EndsInComma]
  cases last : second.toList.getLast? with
  | none =>
      have empty : second = "" := by simpa using last
      simp [empty]
  | some c =>
      have filled : second ≠ "" := by
        rintro rfl
        simp at last
      simp [filled]

/-- A numeral does not end in a comma. -/
theorem Text.Numeral.not_endsInComma {text : String} (numeral : Numeral text) :
    ¬EndsInComma text := by
  intro ends
  have allowed := numeral ',' (List.mem_of_getLast? ends)
  exact absurd allowed (by decide)

/-- The last text decides how texts in a line end. -/
theorem endsInComma_intercalate (texts : List String) :
    EndsInComma (", ".intercalate texts) ↔
      ∃ last, texts.getLast? = some last ∧ EndsInComma last := by
  rcases List.eq_nil_or_concat texts with rfl | ⟨front, last, rfl⟩
  · simp [EndsInComma]
  · rw [List.concat_eq_append]
    by_cases alone : front = []
    · simp [alone]
    · have blank : ¬EndsInComma ", " := by decide
      rw [String.intercalate_append_of_ne_nil alone (List.cons_ne_nil last [])]
      simp [endsInComma_append, blank]

/-- Every line that ends with a comma is followed by one of the others. -/
def NoneHangs (lines others : List String) : Prop :=
  ∀ place line, lines[place]? = some line → EndsInComma line →
    ∃ next ∈ others, lines[place + 1]? = some next

/-- Behind one line of a header at most, only the last line of a list can hang. -/
theorem noneHangs_iff {header lines : List String} (short : header.length ≤ 1) :
    NoneHangs (header ++ lines) lines ↔
      ∀ last, (header ++ lines).getLast? = some last → ¬EndsInComma last := by
  constructor
  · intro none last atEnd ends
    rw [List.getLast?_eq_getElem?] at atEnd
    obtain ⟨next, _, follows⟩ := none _ last atEnd ends
    obtain ⟨inside, _⟩ := List.getElem?_eq_some_iff.1 follows
    omega
  · intro fine place line here ends
    obtain ⟨inside, _⟩ := List.getElem?_eq_some_iff.1 here
    by_cases followed : place + 1 < (header ++ lines).length
    · refine ⟨(header ++ lines)[place + 1], ?_, List.getElem?_eq_getElem followed⟩
      rw [List.getElem_append_right (by omega)]
      exact List.getElem_mem _
    · have last : (header ++ lines).getLast? = some line := by
        rw [List.getLast?_eq_getElem?, ← here]
        congr 1
        omega
      exact absurd ends (fine line last)

/-- A list hangs if it is empty but counted, or if its last item ends with a comma. -/
theorem noneHangs_listLines {header texts : List String} (short : header.length ≤ 1) (perRow : Nat)
    {counted : Bool} (filledOrCounted : texts = [] → counted = true) :
    NoneHangs (header ++ listLines perRow counted texts) (listLines perRow counted texts) ↔
      texts ≠ [] ∧ ∀ last, texts.getLast? = some last → ¬EndsInComma last := by
  rw [noneHangs_iff short]
  by_cases filled : texts = []
  · subst filled
    have zero : listLines perRow true [] = ["0,"] := by
      simp only [listLines, rows_nil]
      decide
    have hanging : EndsInComma "0," := by decide
    simp [filledOrCounted rfl, zero, hanging]
  · obtain ⟨row, lastRow, lastItem⟩ := exists_last_row perRow filled
    have last : (header ++ listLines perRow counted texts).getLast? =
        some (", ".intercalate row) := by
      rw [listLines, List.getLast?_append, List.getLast?_append, getLast?_separated,
        List.getLast?_map, lastRow]
      rfl
    simp [last, filled, endsInComma_intercalate, lastItem]

/-! The lists in blocks. -/

/-- Points stand four to a line, and terms and spheres in lines of their own. -/
inductive ListKind where
  | points (kind : VectorKind) (counted : Bool)
  | terms
  | spheres

namespace ListKind

def name : ListKind → String
  | points _ _ => "points"
  | terms => "coefficients"
  | spheres => "spheres"

def clause : ListKind → Clause
  | points _ counted => .points "points" 4 counted
  | terms => .lines Layout.polynomialTerms
  | spheres => .lines Layout.sweptSpheres

def validator (least : Nat) (most : Option Nat) : ListKind → Validator
  | points kind _ => .vectors kind least most
  | terms => .vectors .xyzw least most
  | spheres => .check (.list least most (.ofClass ["Sphere"]))

def itemText (writer : NodeWriter) : ListKind → Value → Except SceneError String
  | points _ _, item => item.verbatim writer
  | terms, item => Layout.polynomialTerm writer item
  | spheres, item => Layout.sweptSphere writer item

def perRow : ListKind → Nat
  | points _ _ => 4
  | terms => 1
  | spheres => 1

def counted : ListKind → Bool
  | points _ counted => counted
  | terms => false
  | spheres => true

def lines (kind : ListKind) (texts : List String) : List String :=
  listLines kind.perRow kind.counted texts

/-- The items that lists of the kind are made of. -/
inductive Item : ListKind → Value → Prop where
  | point {kind : VectorKind} {counted : Bool} {coordinates : Coordinates}
      (sameKind : coordinates.kind = kind) : Item (points kind counted) (.vector coordinates)
  | term {coordinates : Coordinates} (sameKind : coordinates.kind = .xyzw) :
      Item terms (.vector coordinates)
  | sphere {identity : Nat} {sphere : Object} (named : sphere.className = "Sphere") :
      Item spheres (.node identity sphere)

/-- With one item to a row the lines are the items with commas between. -/
theorem listLines_one (counted : Bool) (texts : List String) :
    listLines 1 counted texts =
      (if counted then [toString texts.length ++ ","] else []) ++ separated texts := by
  have alone : ", ".intercalate ∘ (fun text => [text]) = (id : String → String) := by
    funext text
    exact String.intercalate_singleton
  rw [listLines, rows_one, List.map_map, alone, List.map_id]

/-- A list that is written is written item by item. -/
theorem clause_ok {kind : ListKind} {writer : NodeWriter} {object : Object} {items : List Value}
    (given : object.value? kind.name = some (.list items))
    (each : ∀ item ∈ items, kind.Item item) {entries : List Markup}
    (there : kind.clause.write writer object = .ok entries) :
    ∃ texts, List.Forall₂ (fun item text => kind.itemText writer item = .ok text) items texts ∧
      entries = (kind.lines texts).map .line := by
  have required := Object.required_ok_iff.2 given
  cases kind with
  | points kind counted =>
      have serial : ∀ item ∈ items, ∃ text, item.verbatim writer = .ok text := by
        intro item member
        cases each item member
        exact ⟨_, rfl⟩
      obtain ⟨texts, written⟩ := exists_forall₂ serial
      obtain ⟨value, found, there⟩ := ok_of_bind there
      obtain rfl := Except.ok.inj (required.symm.trans found)
      rw [pointLines_ok written 4 counted] at there
      exact ⟨texts, written, (Except.ok.inj there).symm⟩
  | terms =>
      obtain ⟨lines, composed, rfl⟩ := ok_of_map there
      obtain ⟨value, found, composed⟩ := ok_of_bind composed
      obtain rfl := Except.ok.inj (required.symm.trans found)
      obtain ⟨texts, written, composed⟩ := ok_of_bind composed
      refine ⟨texts, mapM_ok_iff.1 written, ?_⟩
      rw [ListKind.lines, perRow, counted, listLines_one, ← Except.ok.inj composed]
      rfl
  | spheres =>
      obtain ⟨lines, composed, rfl⟩ := ok_of_map there
      obtain ⟨value, found, composed⟩ := ok_of_bind composed
      obtain rfl := Except.ok.inj (required.symm.trans found)
      obtain ⟨texts, written, composed⟩ := ok_of_bind composed
      have lengths := (mapM_ok_iff.1 written).length_eq
      refine ⟨texts, mapM_ok_iff.1 written, ?_⟩
      rw [ListKind.lines, perRow, counted, listLines_one, ← Except.ok.inj composed, lengths]
      rfl

end ListKind

/-- A list that is kept is a list of tuples, and long enough. -/
theorem toVectors_fixed {kind : VectorKind} {least : Nat} {most : Option Nat} {value : Value}
    (fixed : toVectors kind least most value = .ok value) :
    ∃ items, value = .list items ∧ least ≤ items.length ∧ ∀ item ∈ items,
      ∃ coordinates : Coordinates, coordinates.kind = kind ∧ item = .vector coordinates := by
  obtain ⟨items, vectors, rfl, stored, fits, made⟩ := toVectors_ok_iff.1 fixed
  obtain rfl := Value.list.inj stored
  simp only [lengthWithin, Bool.and_eq_true, decide_eq_true_eq] at fits
  refine ⟨items, rfl, fits.1, fun item member => ?_⟩
  obtain ⟨_, _, coerced⟩ := exists_of_forall₂_right made member
  exact toVector_ok_vector coerced

/-- Literals of an attribute for lists are lists of such items, and long enough. -/
theorem Attribute.Settles.listed {rule : Attribute} {kind : ListKind} {least : Nat}
    {most : Option Nat} {value : Value} (settles : rule.Settles (.literal value))
    (ruled : rule.validator = some (kind.validator least most)) :
    ∃ items, value = .list items ∧ least ≤ items.length ∧ ∀ item ∈ items, kind.Item item := by
  cases kind with
  | points vectorKind counted =>
      obtain ⟨items, rfl, enough, each⟩ := toVectors_fixed (settles.fixed ruled)
      refine ⟨items, rfl, enough, fun item member => ?_⟩
      obtain ⟨coordinates, sameKind, rfl⟩ := each item member
      exact .point sameKind
  | terms =>
      obtain ⟨items, rfl, enough, each⟩ := toVectors_fixed (settles.fixed ruled)
      refine ⟨items, rfl, enough, fun item member => ?_⟩
      obtain ⟨coordinates, sameKind, rfl⟩ := each item member
      exact .term sameKind
  | spheres =>
      have accepted := Validator.accepts_of_fixed (settles.fixed ruled)
      obtain ⟨items, rfl, enough, each⟩ := Check.accepts_item accepted
      refine ⟨items, rfl, enough, fun item member => ?_⟩
      obtain ⟨identity, sphere, rfl⟩ :=
        Value.isNode_iff.1 (Check.isNode_of_accepts (by decide) (each item member))
      exact .sphere (by simpa [Check.accepts, Value.className?] using each _ member)

/-- Literals of an attribute for numbers are written as numbers. -/
theorem Attribute.Settles.numeral {rule : Attribute} {value : Value}
    (settles : rule.Settles (.literal value)) (ruled : rule.validator = some (.check .number))
    {writer : NodeWriter} {text : String} (written : value.verbatim writer = .ok text) :
    Text.Numeral text := by
  have accepted := Validator.accepts_of_fixed (settles.fixed ruled)
  cases value with
  | float number =>
      obtain rfl := Except.ok.inj written
      exact .number number
  | int number =>
      obtain rfl := Except.ok.inj written
      exact .integer number.toInt
  | _ => contradiction

/-- Calls on a class of the catalog have made the object. -/
def Object.Reached (object : Object) : Prop :=
  ∃ cls, catalog.class? object.className = some cls ∧ cls.Reachable object

theorem sphere_radius : ∃ rule,
    Catalog.sphereClass.declaration? "radius" = some (Catalog.sphere, .mutable rule) ∧
      rule.validator = some (.check .number) :=
  ⟨_, rfl, rfl⟩

/-- A sphere in a sweep ends with a comma only if its radius does, which is no literal then. -/
theorem Layout.sweptSphere_ends {writer : NodeWriter} {identity : Nat} {sphere : Object}
    (named : sphere.className = "Sphere") (reached : sphere.Reached) {text : String}
    (written : sweptSphere writer (.node identity sphere) = .ok text) (ends : EndsInComma text) :
    ∃ slot, sphere.slot? "radius" = some slot ∧
      ((∃ code, slot = .raw code) ∨ ∃ value, slot = .deferred value) := by
  obtain ⟨cls, known, reached⟩ := reached
  rw [named] at known
  obtain rfl := Option.some.inj (catalog_sphere.symm.trans known)
  have ofSphere : (Value.node identity sphere).asObject?.filter (·.className == "Sphere") =
      some sphere := by
    simp [Value.asObject?, named]
  rw [sweptSphere, ofSphere] at written
  obtain ⟨center, _, written⟩ := ok_of_bind written
  obtain ⟨radius, there, written⟩ := ok_of_bind written
  obtain rfl := Except.ok.inj written
  have radiusEnds : EndsInComma radius := by
    have blank : ¬EndsInComma ", " := by decide
    simpa [endsInComma_append, blank] using ends
  obtain ⟨rule, declared, ruled⟩ := sphere_radius
  obtain ⟨slot, _, stored, read, settles⟩ := reached.stores catalog_sphere declared
  obtain ⟨value, found, shown⟩ := ok_of_bind there
  have given : slot.read = some value := read ▸ Object.required_ok_iff.1 found
  refine ⟨slot, stored, ?_⟩
  cases slot with
  | unset => contradiction
  | raw code => exact .inl ⟨code, rfl⟩
  | deferred other => exact .inr ⟨other, rfl⟩
  | literal other =>
      obtain rfl := Option.some.inj given
      exact absurd radiusEnds (settles.numeral ruled shown).not_endsInComma

/-- The text of a vector does not end in a comma. -/
theorem Coordinates.not_endsInComma_text (coordinates : Coordinates) :
    ¬EndsInComma coordinates.text := by
  have bracket : ¬EndsInComma ">" := by decide
  unfold Coordinates.text
  split <;> simp [endsInComma_append, bracket]

/-- The term of a polynomial does not end in a comma. -/
theorem Layout.not_endsInComma_term {writer : NodeWriter} {coordinates : Coordinates}
    (sameKind : coordinates.kind = .xyzw) {text : String}
    (written : polynomialTerm writer (.vector coordinates) = .ok text) : ¬EndsInComma text := by
  have length : coordinates.components.length = 4 := by
    rw [coordinates.length_eq, sameKind]
    rfl
  obtain ⟨x, y, z, coefficient, components⟩ := List.length_eq_four.1 length
  have tuple : (Value.vector coordinates).asVector?.map (·.components) =
      some [x, y, z, coefficient] := by
    simp [Value.asVector?, components]
  rw [polynomialTerm, tuple] at written
  obtain rfl := Except.ok.inj written
  have colon : ¬EndsInComma "):" := by decide
  have number := (Text.Numeral.number coefficient).not_endsInComma
  simp [endsInComma_append, colon, number]

/-- Tuples end with a bracket and terms with a number. -/
theorem ListKind.itemText_ends {kind : ListKind} {item : Value} (listed : kind.Item item)
    {writer : NodeWriter} {text : String} (written : kind.itemText writer item = .ok text)
    (ends : EndsInComma text) :
    ∃ identity sphere, item = .node identity sphere ∧ sphere.className = "Sphere" ∧
      Layout.sweptSphere writer item = .ok text := by
  cases listed with
  | point sameKind =>
      obtain rfl := Except.ok.inj written
      exact absurd ends (Coordinates.not_endsInComma_text _)
  | term sameKind => exact absurd ends (Layout.not_endsInComma_term sameKind written)
  | sphere named => exact ⟨_, _, rfl, named, written⟩

/-- A class with a list, the bounds of its length, and what stands around it. -/
structure Listing where
  own : ClassTable
  keyword : String
  kind : ListKind
  least : Nat
  most : Option Nat := none
  above : List Clause := []
  header : Option (List Piece) := none
  below : List Clause := []

namespace Listing

def clauses (listing : Listing) : List Clause :=
  listing.above ++ (listing.header.toList.map .line ++ listing.kind.clause :: listing.below)

def all : List Listing := [
  { own := Catalog.bicubicPatch, keyword := "bicubic_patch", kind := .points .xyz false
    least := 16, most := some 16
    above := [.line [.words "type ", .value "type"], .setting "flatness" "flatness",
      .setting "uSteps" "u_steps", .setting "vSteps" "v_steps"] },
  { own := Catalog.lathe, keyword := "lathe", kind := .points .xy true, least := 2
    above := [.line [.keyed Vocabulary.splineTypes "type"]]
    below := Layout.solver },
  { own := Catalog.polygon, keyword := "polygon", kind := .points .xy true, least := 3 },
  { own := Catalog.polynomial, keyword := "polynomial", kind := .terms, least := 1
    header := some [.value "order", .words ","]
    below := Layout.solver },
  { own := Catalog.prism, keyword := "prism", kind := .points .xy true, least := 0
    above := [.line [.keyed Vocabulary.prismTypes "type"]]
    header := some (Layout.values ["height1", "height2"] ++ [.words ","])
    below := .flag "open" "open" :: Layout.solver },
  { own := Catalog.sor, keyword := "sor", kind := .points .xy true, least := 2
    below := .flag "open" "open" :: Layout.solver },
  { own := Catalog.sphereSweep, keyword := "sphere_sweep", kind := .spheres, least := 2
    above := [.line [.keyed Vocabulary.sweepTypes "type"]]
    below := [.setting "tolerance" "tolerance"] }]

/-- The layout of each listing is the one of its clauses, which is checked over the table. -/
theorem laid : ∀ listing ∈ all,
    Layout.ofClass? listing.own.name = some (.material listing.keyword listing.clauses) := by
  simp only [all, List.forall_mem_cons]
  exact ⟨rfl, rfl, rfl, rfl, rfl, rfl, rfl, List.forall_mem_nil _⟩

/-- The class, and its attribute for the list. -/
theorem ruled : ∀ listing ∈ all,
    catalog.class? listing.own.name = some ⟨listing.own, [Catalog.primitive]⟩ ∧
      ∃ table rule, Class.declaration? ⟨listing.own, [Catalog.primitive]⟩ listing.kind.name =
          some (table, .mutable rule) ∧
        rule.validator = some (listing.kind.validator listing.least listing.most) := by
  simp only [all, List.forall_mem_cons]
  exact ⟨⟨Catalog.class_of_primitive (by rfl) rfl (by decide), _, _, rfl, rfl⟩,
    ⟨Catalog.class_of_primitive (by rfl) rfl (by decide), _, _, rfl, rfl⟩,
    ⟨Catalog.class_of_primitive (by rfl) rfl (by decide), _, _, rfl, rfl⟩,
    ⟨Catalog.class_of_primitive (by rfl) rfl (by decide), _, _, rfl, rfl⟩,
    ⟨Catalog.class_of_primitive (by rfl) rfl (by decide), _, _, rfl, rfl⟩,
    ⟨Catalog.class_of_primitive (by rfl) rfl (by decide), _, _, rfl, rfl⟩,
    ⟨Catalog.class_of_primitive (by rfl) rfl (by decide), _, _, rfl, rfl⟩, List.forall_mem_nil _⟩

/-- Only one class takes an empty list, and counts it. -/
theorem empty : ∀ listing ∈ all, listing.least = 0 →
    listing.own.name = "Prism" ∧ listing.kind.counted = true := by
  decide

/-- A header is one line. -/
theorem header_ok {writer : NodeWriter} {object : Object} {header : Option (List Piece)}
    {entries : List Markup}
    (there : Clause.writeAll writer object (header.toList.map .line) = .ok entries) :
    ∃ texts : List String, texts.length = header.toList.length ∧ entries = texts.map .line := by
  cases header with
  | none =>
      obtain rfl := Except.ok.inj there
      exact ⟨[], rfl, rfl⟩
  | some pieces =>
      obtain ⟨above, below, first, rest, rfl⟩ := Clause.writeAll_cons_ok there
      obtain ⟨text, rfl⟩ := Clause.line_ok first
      obtain rfl := Except.ok.inj rest
      exact ⟨[text], rfl, rfl⟩

end Listing

/-- How a list is shown in the text of its object: each item has a text, and their rows stand behind
the lines above the list and its header. No row is empty. The list hangs if it is empty, as only the
points of prisms can be, or if its last item ends with a comma, as only spheres can whose radius is
not a literal. -/
structure Listing.Shown (listing : Listing) (object : Object) (stops : Nat) (written : String)
    (comment : Option String) (above below : List Markup) (header texts : List String)
    (items : List Value) : Prop where
  each : List.Forall₂ (fun item text => listing.kind.itemText Object.markup item = .ok text)
    items texts
  block : object.markup = .ok (.block comment listing.keyword
    (above ++ ((header ++ listing.kind.lines texts).map .line ++ below)))
  text : written = (Markup.block comment listing.keyword
    (above ++ ((header ++ listing.kind.lines texts).map .line ++ below))).write stops
  upper : Clause.writeAll Object.markup object listing.above = .ok above
  headed : Clause.writeAll Object.markup object (listing.header.toList.map .line) =
    .ok (header.map .line)
  filled : ∀ row ∈ rows listing.kind.perRow texts, row ≠ []
  hangs : NoneHangs (header ++ listing.kind.lines texts) (listing.kind.lines texts) ↔
    items ≠ [] ∧ ∀ last, texts.getLast? = some last → ¬EndsInComma last
  empty : items = [] → object.className = "Prism"
  comma : ∀ last, texts.getLast? = some last → EndsInComma last →
    ∃ identity sphere slot, items.getLast? = some (.node identity sphere) ∧
      sphere.className = "Sphere" ∧ sphere.slot? "radius" = some slot ∧
      ((∃ code, slot = .raw code) ∨ ∃ value, slot = .deferred value)

namespace Object

/-- The lists of the seven classes that have one are shown so in every text of their objects. -/
theorem sceneText_listing {listing : Listing} (listed : listing ∈ Listing.all) {object : Object}
    (named : object.className = listing.own.name) (reached : object.Everywhere Reached)
    {value : Value} (given : object.slot? listing.kind.name = some (.literal value)) {stops : Nat}
    {written : String} (there : object.sceneText stops = .ok written) :
    ∃ items, value = .list items ∧ ∃ comment above below header texts,
      listing.Shown object stops written comment above below header texts items := by
  obtain ⟨known, table, rule, declared, ruled⟩ := Listing.ruled listing listed
  obtain ⟨cls, found, made⟩ := reached.here
  rw [named, known] at found
  obtain rfl := Option.some.inj found
  obtain ⟨slot, member, stored, read, settles⟩ := made.stores known declared
  obtain rfl := Option.some.inj (given.symm.trans stored)
  obtain ⟨items, rfl, enough, each⟩ := settles.listed ruled
  obtain ⟨comment, body, entries, block, rfl⟩ :=
    sceneText_ok (named ▸ Listing.laid listing listed) there
  rw [Listing.clauses, List.append_assoc, List.append_assoc, List.cons_append] at entries
  obtain ⟨above, _, top, inside, rfl⟩ := Clause.writeAll_append_ok entries
  obtain ⟨_, _, upper, lower, rfl⟩ := Clause.writeAll_append_ok inside
  obtain ⟨header, short, rfl⟩ := Listing.header_ok upper
  obtain ⟨_, below, here, _, rfl⟩ := Clause.writeAll_cons_ok lower
  obtain ⟨texts, shown, rfl⟩ := ListKind.clause_ok read each here
  have none : items = [] ↔ texts = [] := by
    rw [← List.length_eq_zero_iff, shown.length_eq, List.length_eq_zero_iff]
  have emptied : items = [] → listing.least = 0 := by
    rintro rfl
    simpa using enough
  rw [← List.append_assoc (header.map Markup.line), ← List.map_append] at block ⊢
  refine ⟨items, rfl, comment, above, below, header, texts, shown, block, rfl, top, upper,
    fun row => ne_nil_of_mem_rows, ?_, ?_, ?_⟩
  · rw [ne_eq, none]
    apply noneHangs_listLines
    · rw [short]
      cases listing.header <;> simp
    · exact fun bare => (Listing.empty listing listed (emptied (none.2 bare))).2
  · exact fun bare => named.trans (Listing.empty listing listed (emptied bare)).1
  · intro last atEnd ends
    obtain ⟨item, lastItem, shownLast⟩ := exists_getLast_of_forall₂ shown atEnd
    have inItems := List.mem_of_getLast? lastItem
    obtain ⟨identity, sphere, rfl, sphereNamed, sphereText⟩ :=
      ListKind.itemText_ends (each item inItems) shownLast ends
    have held : object.Holds sphere :=
      ⟨_, ⟨_, member, rfl⟩, Value.holds_list_iff.2 ⟨_, inItems, Value.holds_node_iff.2 rfl⟩⟩
    obtain ⟨slot, radius, computed⟩ :=
      Layout.sweptSphere_ends sphereNamed (reached.within held).here sphereText ends
    exact ⟨identity, sphere, slot, lastItem, sphereNamed, radius, computed⟩

/-- A sphere that is swept from a place to itself. -/
def sweep : Object := Class.run ⟨Catalog.sphereSweep, [Catalog.primitive]⟩
  (Class.blank ⟨Catalog.sphereSweep, [Catalog.primitive]⟩) [
    .set "type" (.literal (.text "linearSpline")),
    .set "spheres" (.literal (.list [.node 1 ball, .node 1 ball]))]

theorem sweep_stores {value : Value} : sweep.Stores value ↔
    value ∈ [.text "linearSpline", .list [.node 1 ball, .node 1 ball], .bool true] :=
  stores_iff

theorem sweep_reached : sweep.Everywhere Reached := by
  have built := merged_built.within ⟨_, merged_stores.2 (.head _),
    Value.holds_list_iff.2 ⟨_, .head _, Value.holds_node_iff.2 rfl⟩⟩
  refine .intro ⟨⟨Catalog.sphereSweep, [Catalog.primitive]⟩,
    Catalog.class_of_primitive (by rfl) rfl (by decide), _, _, .options SortedMap.empty rfl rfl,
    rfl⟩ ?_
  rintro child ⟨value, stored, held⟩
  obtain rfl : child = ball := by
    rw [sweep_stores] at stored
    simp only [List.mem_cons, List.not_mem_nil, or_false] at stored
    rcases stored with rfl | rfl | rfl
    · obtain ⟨identity, within⟩ := held
      cases within
    · obtain ⟨item, member, inside⟩ := Value.holds_list_iff.1 held
      obtain rfl : item = .node 1 ball := by simpa using member
      exact Value.holds_node_iff.1 inside
    · obtain ⟨identity, within⟩ := held
      cases within
  exact built.mono fun _ made => made.known

/-- The number of spheres is followed by the first of them, and this one by the second. -/
theorem sceneText_listing_sweep :
    ∃ listing ∈ Listing.all, sweep.className = listing.own.name ∧ sweep.Everywhere Reached ∧
      sweep.slot? listing.kind.name = some (.literal (.list [.node 1 ball, .node 1 ball])) ∧
      ∃ lines comment above below, lines = ["2,", "<0, 1, 0>, 1,", "<0, 1, 0>, 1"] ∧
        sweep.sceneText 1 = .ok ((Markup.block comment "sphere_sweep"
          (above ++ (lines.map .line ++ below))).write 1) ∧
        NoneHangs lines lines := by
  have listed := List.getLast_mem (by decide : Listing.all ≠ [])
  obtain ⟨written, there⟩ := exists_sceneText (by decide : sweep.markup.isOk = true) 1
  obtain ⟨items, same, comment, above, below, header, texts, shown⟩ :=
    sceneText_listing listed rfl sweep_reached rfl there
  obtain rfl := Value.list.inj same
  obtain rfl := shown.text
  have each := mapM_ok_iff.2 shown.each
  obtain rfl : ["<0, 1, 0>, 1", "<0, 1, 0>, 1"] = texts := Except.ok.inj each
  obtain rfl := List.map_eq_nil_iff.1 (Except.ok.inj shown.headed).symm
  have last : ¬EndsInComma "<0, 1, 0>, 1" := by decide
  refine ⟨_, listed, rfl, sweep_reached, rfl, _, comment, above, below, ?_, there,
    shown.hangs.2 ⟨List.cons_ne_nil _ _, by simpa using last⟩⟩
  decide

/-- A prism without points. -/
def pointless : Object := Class.run ⟨Catalog.prism, [Catalog.primitive]⟩
  (Class.blank ⟨Catalog.prism, [Catalog.primitive]⟩) [
    .set "type" (.literal (.text "linearSpline")), .set "height1" (.literal (.int 0)),
    .set "height2" (.literal (.int 1)), .set "points" (.literal (.list []))]

/-- Nothing follows the number of points. -/
theorem empty_list_hangs :
    Class.Reachable ⟨Catalog.prism, [Catalog.primitive]⟩ pointless ∧
      (∀ slot ∈ pointless.slots, slot.isDeferred = false) ∧
      pointless.slot? "points" = some (.literal (.list [])) ∧
      pointless.markup =
        .ok (.block none "prism" (["linear_spline", "0, 1,", "0,"].map .line)) ∧
      pointless.sceneText 0 = .ok "prism {
    linear_spline
    0, 1,
    0,
}" ∧
      ¬NoneHangs ["0, 1,", "0,"] ["0,"] := by
  refine ⟨⟨_, _, .options SortedMap.empty rfl rfl, rfl⟩, by decide, rfl, by rfl, by rfl, ?_⟩
  intro none
  obtain ⟨next, _, follows⟩ := none 1 "0," rfl (by decide)
  contradiction

end Object

end SceneCatalog
