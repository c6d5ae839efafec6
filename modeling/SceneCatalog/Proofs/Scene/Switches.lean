import SceneCatalog.Proofs.Scene.Coverage
import SceneCatalog.Proofs.Scene.Shifting

/-
This file shows that attributes leave no trace in a text while the switch that they stand behind is
off.
-/

namespace SceneCatalog

/-- A switch of a class, and the attributes that are of no use while it is off. -/
structure Switch where
  className : String
  name : String
  covers : String → Bool

/-- The switch of photons and that of radiosity are covered by themselves, as are all attributes
that share the beginning of their names. -/
def switches : List Switch := [
  ⟨"GlobalSettings", "photon", fun name => "photon".toList.isPrefixOf name.toList⟩,
  ⟨"GlobalSettings", "radiosity", fun name => "rad".toList.isPrefixOf name.toList⟩,
  ⟨"GlobalSettings", "subsurface", ["subSamples", "subRadiosity"].contains⟩,
  ⟨"LightSource", "areaLight",
    ["axis1", "axis2", "size1", "size2", "adaptive", "jitter", "circular", "orient"].contains⟩]

/-- What the switch covers is not required, and no section but its own reads it. -/
def Switch.guards (switch : Switch) (layout : Layout) : Bool :=
  !switch.covers "id" &&
  (catalog.find? switch.className).all (fun table =>
    table.required.all fun rule => !switch.covers rule.name) &&
  layout.sections.all fun part =>
    part.switches == [switch.name] || (part.reads switch.className).all fun name =>
      !switch.covers name

/-- Each switch guards what it covers, which is checked over the layouts. -/
theorem switches_guard : ∀ switch ∈ switches, ∃ layout,
    Layout.ofBlock? switch.className = some layout ∧ switch.guards layout = true ∧
      ∀ first second, layout.keyword first = layout.keyword second := by
  simp only [switches, List.forall_mem_cons]
  exact ⟨⟨_, rfl, by decide, fun _ _ => rfl⟩, ⟨_, rfl, by decide, fun _ _ => rfl⟩,
    ⟨_, rfl, by decide, fun _ _ => rfl⟩, ⟨_, rfl, by decide, fun _ _ => rfl⟩,
    List.forall_mem_nil _⟩

/-- A section whose switch is off is not written. -/
theorem Section.write_off {part : Section} {switch : String} (switched : part.switches = [switch])
    {object : Object} (off : object.flag? switch ≠ some true) (writer : NodeWriter) :
    part.write writer object = .ok [] := by
  cases part with
  | always clauses => contradiction
  | whileOn name clauses =>
      obtain rfl : name = switch := List.head_eq_of_cons_eq switched
      simp [write, off]
  | blockWhileOn name keyword clauses =>
      obtain rfl : name = switch := List.head_eq_of_cons_eq switched
      simp [write, off]

namespace Object

/-- Two objects of a class have the same text if a switch is off in both of them and they agree on
all attributes that it does not cover. -/
theorem blockText_switchedOff {switch : Switch} (listed : switch ∈ switches)
    {first second : Object} (firstNamed : first.className = switch.className)
    (secondNamed : second.className = switch.className)
    (firstOff : first.flag? switch.name ≠ some true)
    (secondOff : second.flag? switch.name ≠ some true)
    (agree : ∀ name, switch.covers name = false → first.get name = second.get name)
    (stops : Nat) : first.blockText stops = second.blockText stops := by
  obtain ⟨layout, found, guards, keyword⟩ := switches_guard switch listed
  simp only [Switch.guards, Bool.and_eq_true, Bool.not_eq_true', List.all_eq_true,
    Bool.or_eq_true, beq_iff_eq] at guards
  obtain ⟨⟨identifier, required⟩, sections⟩ := guards
  have sameClass : first.className = second.className := firstNamed.trans secondNamed.symm
  have laid : (switch.className, layout) ∈ Layout.ofBlocks := Layout.mem_of_ofBlock found
  have values : ∀ name, switch.covers name = false → first.value? name = second.value? name :=
    fun name uncovered => value_of_get (agree name uncovered)
  have checked : first.requireOwn = second.requireOwn := by
    apply requireOwn_eq sameClass
    intro table tableFound rule member
    rw [← firstNamed, tableFound, Option.all_some, List.all_eq_true] at required
    rw [values rule.name (by simpa using required rule member)]
  -- The section of the switch writes nothing, and all others read nothing that it covers.
  have each : ∀ part ∈ layout.sections, part.write markup first = part.write markup second := by
    intro part member
    rcases sections part member with switched | unread
    · rw [part.write_off switched firstOff, part.write_off switched secondOff]
    · apply Layout.section_congr laid member
      exact (alike_of_reads sameClass (fun name read => values name (unread name read)) _).mirrors
  have body : Section.writeAll markup first layout.sections =
      Section.writeAll markup second layout.sections := by
    rw [Section.writeAll_eq, Section.writeAll_eq, mapM_congr each]
  have comment : textIfSet markup first "id" = textIfSet markup second "id" := by
    rw [textIfSet, textIfSet, values "id" identifier]
  have block : first.writeAs layout markup = second.writeAs layout markup := by
    rw [writeAs, writeAs, Layout.write, Layout.write, checked, body, comment, keyword first second]
  rw [blockText_eq (firstNamed ▸ found), blockText_eq (secondNamed ▸ found), block]

/-- Settings with a count of photons whose switch holds code, which is not read as true. -/
def unlit : Object := Catalog.settingsClass.run Catalog.settingsClass.blank [
  .assign "photon" (.raw "on"), .assign "photonCount" (.raw "20000")]

/-- The settings have the text of new settings. -/
theorem blockText_switchedOff_unlit :
    ∃ switch ∈ switches, unlit.className = switch.className ∧
      Catalog.settingsClass.blank.className = switch.className ∧
      unlit.flag? switch.name ≠ some true ∧
      Catalog.settingsClass.blank.flag? switch.name ≠ some true ∧
      (∀ name, switch.covers name = false →
        unlit.get name = Catalog.settingsClass.blank.get name) ∧
      unlit.value? "photonCount" = some (.code "20000") ∧
      Catalog.settingsClass.blank.value? "photonCount" = none ∧
      unlit.blockText 1 = Catalog.settingsClass.blank.blockText 1 := by
  have start := Catalog.settingsClass.reachable_blank rfl
  have agree : ∀ name, "photon".toList.isPrefixOf name.toList = false →
      unlit.get name = Catalog.settingsClass.blank.get name := by
    intro name uncovered
    have apart : name ≠ "photon" ∧ name ≠ "photonCount" := by
      constructor <;> rintro rfl <;> exact absurd uncovered (by decide)
    rw [unlit, Class.run, List.foldl_cons, List.foldl_cons, List.foldl_nil,
      Class.get_after_assign (start.after _).fits _ _ apart.2,
      Class.get_after_assign start.fits _ _ apart.1]
  exact ⟨_, .head _, rfl, rfl, by decide, by decide, agree, rfl, rfl,
    blockText_switchedOff (.head _) rfl rfl (by decide) (by decide) agree 1⟩

end Object

end SceneCatalog
