import SceneCatalog.Proofs.Scene.Bodies
import SceneCatalog.Proofs.Scene.Completeness

/-
This file says how fractals write the exponents of a power, and which exponents they leave out.
-/

namespace SceneCatalog

/-- Only tuples of its kind are stored for an attribute that coerces to them. -/
theorem Attribute.Settles.tuple {rule : Attribute} {kind : VectorKind} {value : Value}
    (settles : rule.Settles (.literal value)) (ruled : rule.validator = some (.vector kind)) :
    ∃ coordinates : Coordinates, coordinates.kind = kind ∧ value = .vector coordinates :=
  toVector_ok_vector (settles.fixed ruled)

namespace Layout

/-- The line of a power: its name, and the exponents behind it if there are any. -/
def powerCall : Option Coordinates → String
  | some exponents => "pwr " ++ ", ".intercalate (exponents.components.map numberText)
  | none => "pwr"

/-- The call is the bare `pwr` exactly when there are no exponents. -/
theorem powerCall_eq_pwr_iff {exponents : Option Coordinates} :
    powerCall exponents = "pwr" ↔ exponents = none := by
  cases exponents with
  | none => simp [powerCall]
  | some exponents =>
      have longer : "pwr".length < (powerCall (some exponents)).length := by
        have name : "pwr ".length = "pwr".length + 1 := rfl
        rw [powerCall, String.length_append]
        omega
      simp only [reduceCtorEq, iff_false]
      intro same
      rw [same] at longer
      omega

/-- The exponents are looked for among the tuples. -/
theorem juliaFormula_power {writer : NodeWriter} {object : Object}
    (typed : object.value? "type" = some (.text "hypercomplex:pwr")) :
    juliaFormula writer object =
      .ok ["hypercomplex", powerCall ((object.value? "power").bind Value.asVector?)] := by
  have split : splitAtFirst? ':' "hypercomplex:pwr".toList =
      some ("hypercomplex".toList, "pwr".toList) := by
    decide
  unfold juliaFormula
  generalize (object.value? "power").bind Value.asVector? = exponents
  simp only [Object.required, typed, Value.asText?, Option.bind_some, split, bind, Except.bind]
  cases exponents <;> rfl

end Layout

def Catalog.juliaFractalClass : Class := ⟨juliaFractal, [primitive]⟩

theorem catalog_juliaFractal : catalog.class? "JuliaFractal" = some Catalog.juliaFractalClass :=
  Catalog.class_of_primitive (by rfl) rfl (by decide)

theorem juliaFractal_type : ∃ rule,
    Catalog.juliaFractalClass.declaration? "type" =
      some (Catalog.juliaFractal, .mutable rule) :=
  ⟨_, rfl⟩

theorem juliaFractal_power : ∃ rule,
    Catalog.juliaFractalClass.declaration? "power" =
        some (Catalog.juliaFractal, .mutable rule) ∧
      rule.validator = some (.vector .xy) :=
  ⟨_, rfl, rfl⟩

namespace Object

/-- The third line of a fractal with a power has the exponents if they are a tuple, as literals
always are. Code is left out, and so is a value that is no tuple when it is read. -/
theorem sceneText_power {object : Object} (reached : Catalog.juliaFractalClass.Reachable object)
    (typed : object.slot? "type" = some (.literal (.text "hypercomplex:pwr"))) {slot : Slot}
    (kept : object.slot? "power" = some slot) (set : slot ≠ .unset) {stops : Nat}
    {written : String} (there : object.sceneText stops = .ok written) :
    ∃ comment parameter call body,
      object.markup = .ok (.block comment "julia_fractal"
        (.line parameter :: .line "hypercomplex" :: .line call :: body)) ∧
      written = (Markup.block comment "julia_fractal"
        (.line parameter :: .line "hypercomplex" :: .line call :: body)).write stops ∧
      (∀ value, slot = .literal value → ∃ exponents x y, value = .vector exponents ∧
        exponents.components = [x, y] ∧
        call = "pwr " ++ numberText x ++ ", " ++ numberText y) ∧
      (∀ value, slot = .deferred value → ∀ exponents, value = .vector exponents →
        call = "pwr " ++ ", ".intercalate (exponents.components.map numberText)) ∧
      (call = "pwr" ↔ (∃ code, slot = .raw code) ∨
        ∃ value, slot = .deferred value ∧ value.asVector? = none) := by
  have named : object.className = "JuliaFractal" := Class.className_of_fits reached.fits
  have found : Layout.ofClass? object.className = some Layout.juliaFractal := by
    rw [named]
    rfl
  obtain ⟨_, typeDeclared⟩ := juliaFractal_type
  obtain ⟨rule, declared, ruled⟩ := juliaFractal_power
  have formula := (reached.value_of_slot catalog_juliaFractal typeDeclared typed).1
  obtain ⟨read, settles⟩ := reached.value_of_slot catalog_juliaFractal declared kept
  obtain ⟨comment, body, entries, made, rfl⟩ := sceneText_ok found there
  obtain ⟨_, _, first, later, rfl⟩ := Clause.writeAll_cons_ok entries
  obtain ⟨parameter, rfl⟩ := Clause.line_ok first
  obtain ⟨_, below, second, _, rfl⟩ := Clause.writeAll_cons_ok later
  obtain ⟨lines, composed, rfl⟩ := ok_of_map second
  obtain rfl := Except.ok.inj ((Layout.juliaFormula_power formula).symm.trans composed)
  rw [read] at made ⊢
  refine ⟨comment, parameter, _, below, made, rfl, ?_, ?_, ?_⟩
  · rintro value rfl
    obtain ⟨exponents, kind, rfl⟩ := settles.tuple ruled
    obtain ⟨x, y, components⟩ := List.length_eq_two.1 (kind ▸ exponents.length_eq)
    refine ⟨exponents, x, y, rfl, components, ?_⟩
    show "pwr " ++ _ = _
    rw [components]
    simp [String.append_assoc]
  · rintro value rfl exponents rfl
    rfl
  · rw [Layout.powerCall_eq_pwr_iff]
    cases slot with
    | unset => exact absurd rfl set
    | raw code => simp [Slot.read, Value.asVector?]
    | deferred value => simp [Slot.read]
    | literal value =>
        obtain ⟨exponents, _, rfl⟩ := settles.tuple ruled
        simp [Slot.read, Value.asVector?]

/-- A fractal of a power. -/
def fractal (power : Slot) : Object :=
  Catalog.juliaFractalClass.run Catalog.juliaFractalClass.blank [
    .set "type" (.literal (.text "hypercomplex:pwr")), .set "juliaParam" (.raw "<0, 0, 0, 0>"),
    .set "power" power]

theorem fractal_reached (power : Slot) : Catalog.juliaFractalClass.Reachable (fractal power) :=
  ⟨_, _, .options SortedMap.empty rfl rfl, rfl⟩

/-- Exponents that are code are left out. -/
theorem code_power_dropped :
    Catalog.juliaFractalClass.Reachable (fractal (.raw "2, 3")) ∧
      (fractal (.raw "2, 3")).slot? "type" = some (.literal (.text "hypercomplex:pwr")) ∧
      (fractal (.raw "2, 3")).slot? "power" = some (.raw "2, 3") ∧
      (fractal (.raw "2, 3")).sceneText 0 =
        .ok "julia_fractal {
    <0, 0, 0, 0>
    hypercomplex
    pwr
}" :=
  ⟨fractal_reached _, rfl, rfl, by rfl⟩

/-- Two integers in a list are stored as a tuple, whose components stand behind the name. -/
theorem sceneText_power_list :
    Catalog.juliaFractalClass.Reachable (fractal (.literal (.list [.int 2, .int 3]))) ∧
      (fractal (.literal (.list [.int 2, .int 3]))).slot? "type" =
        some (.literal (.text "hypercomplex:pwr")) ∧
      ∃ exponents : Coordinates, (fractal (.literal (.list [.int 2, .int 3]))).slot? "power" =
          some (.literal (.vector exponents)) ∧
        ∃ comment parameter body, (fractal (.literal (.list [.int 2, .int 3]))).sceneText 0 =
          .ok ((Markup.block comment "julia_fractal"
            (.line parameter :: .line "hypercomplex" :: .line "pwr 2, 3" :: body)).write 0) := by
  have kept : ∃ exponents : Coordinates, exponents.components = [2, 3] ∧
      (fractal (.literal (.list [.int 2, .int 3]))).slot? "power" =
        some (.literal (.vector exponents)) :=
    ⟨_, by decide, rfl⟩
  obtain ⟨exponents, components, kept⟩ := kept
  obtain ⟨written, there⟩ := exists_sceneText
    (by decide : (fractal (.literal (.list [.int 2, .int 3]))).markup.isOk = true) 0
  obtain ⟨comment, parameter, call, body, _, rfl, literal, _⟩ :=
    sceneText_power (fractal_reached _) rfl kept Slot.noConfusion there
  obtain ⟨_, x, y, same, split, rfl⟩ := literal _ rfl
  obtain rfl := Value.vector.inj same
  obtain ⟨rfl, rfl⟩ : 2 = x ∧ 3 = y := by simpa [components] using split
  have text : "pwr " ++ numberText 2 ++ ", " ++ numberText 3 = "pwr 2, 3" := by decide
  exact ⟨fractal_reached _, rfl, exponents, kept, comment, parameter, body, text ▸ there⟩

end Object

end SceneCatalog
