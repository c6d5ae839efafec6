import Mathlib.Data.List.TakeWhile
import SceneCatalog.Object.Conversion
import SceneCatalog.Proofs.Object.Runs
import SceneCatalog.Proofs.Value.Promotion

/-
This file says which channels of a tuple hold the numbers of the attributes that they are named
for. A colour without a filter loses its transmit channel.
-/

namespace SceneCatalog

/-- Each component of a tuple has a name of its own. -/
theorem VectorKind.componentNames_nodup (kind : VectorKind) : kind.componentNames.Nodup := by
  cases kind <;> decide

/-- What stands beside a name is found by it. -/
theorem find_zip {look : String → Option Float} {names : List String} {numbers : List Float}
    (pairs : List.Forall₂ (fun name number => look name = some number) names numbers)
    {name : String} (member : name ∈ names) :
    ((names.zip numbers).find? (·.1 == name)).map (·.2) = look name := by
  induction pairs with
  | nil => contradiction
  | @cons first number _ _ here _ inductionHypothesis =>
      by_cases same : first = name
      · subst same
        simp [here]
      · have later := (List.mem_cons.1 member).resolve_left (Ne.symm same)
        simpa [List.find?_cons, same] using inductionHypothesis later

namespace Object

/-- The components in front of the first one that is unset. -/
def leading (object : Object) (kind : VectorKind) : List String :=
  kind.componentNames.takeWhile fun name => (object.value? name).isSome

/-- The number of an attribute, which is zero while it is unset. -/
def channel? (object : Object) (name : String) : Option Float :=
  match object.value? name with
  | some value => value.asFloat?
  | none => some 0

variable {object : Object} {kind : VectorKind}

theorem channel_of_value {name : String} {value : Value}
    (found : object.value? name = some value) : object.channel? name = value.asFloat? := by
  rw [channel?, found]

/-- The numbers that are read are those of the names in front of the first unset one. -/
theorem channels_of_componentsFrom {count : Nat} {names : List String} {numbers : List Float}
    (read : object.componentsFrom kind count names = .ok numbers) :
    List.Forall₂ (fun name number => object.channel? name = some number)
      (names.takeWhile fun name => (object.value? name).isSome) numbers := by
  induction names generalizing count numbers with
  | nil =>
      obtain rfl := Except.ok.inj read
      exact .nil
  | cons name rest inductionHypothesis =>
      rw [componentsFrom] at read
      cases found : object.value? name with
      | none =>
          rw [found] at read
          dsimp only at read
          split at read
          · obtain rfl := Except.ok.inj read
            rw [List.takeWhile_cons, found]
            exact .nil
          · contradiction
      | some value =>
          rw [found] at read
          dsimp only at read
          split at read
          · rename_i number counted
            have here := (channel_of_value found).trans counted
            cases later : object.componentsFrom kind (count + 1) rest with
            | error error =>
                rw [later] at read
                contradiction
            | ok others =>
                rw [later] at read
                obtain rfl := Except.ok.inj read
                rw [List.takeWhile_cons, found]
                exact .cons here (inductionHypothesis later)
          · contradiction

/-- The names in front of the first unset one are enough if the kind can do without the others. -/
theorem componentsFrom_of_channels {count : Nat} {names : List String} {numbers : List Float}
    (channels : List.Forall₂ (fun name number => object.channel? name = some number)
      (names.takeWhile fun name => (object.value? name).isSome) numbers)
    (enough : kind.leastArity ≤ count + numbers.length) :
    object.componentsFrom kind count names = .ok numbers := by
  induction names generalizing count numbers with
  | nil =>
      cases channels
      rfl
  | cons name rest inductionHypothesis =>
      rw [componentsFrom]
      rw [List.takeWhile_cons] at channels
      cases found : object.value? name with
      | none =>
          rw [found] at channels
          cases channels
          exact if_pos enough
      | some value =>
          rw [found] at channels
          obtain ⟨number, others, here, later, rfl⟩ := List.forall₂_cons_left_iff.1 channels
          have room : kind.leastArity ≤ count + 1 + others.length := by
            rw [List.length_cons] at enough
            omega
          dsimp only
          rw [← channel_of_value found, here, inductionHypothesis later room]
          rfl

/-- An object becomes a tuple if its leading components are numbers that make one. -/
theorem toCoordinates_ok_iff {coordinates : Coordinates} :
    object.toCoordinates kind = .ok coordinates ↔
      ∃ numbers, List.Forall₂ (fun name number => object.channel? name = some number)
          (object.leading kind) numbers ∧
        Coordinates.ofNumbers? kind numbers = some coordinates := by
  rw [toCoordinates]
  constructor
  · intro converted
    obtain ⟨numbers, read, made⟩ := ok_of_bind converted
    refine ⟨numbers, channels_of_componentsFrom read, ?_⟩
    split at made
    · rename_i found
      exact found.trans (congrArg some (Except.ok.inj made))
    · contradiction
  · rintro ⟨numbers, channels, made⟩
    have enough := (Coordinates.ofNumbers_some_iff.1 made).1.1
    have read := componentsFrom_of_channels channels (by rwa [Nat.zero_add])
    rw [read]
    dsimp only [bind, Except.bind]
    rw [made]
    rfl

/-- The leading components make a tuple if they are finite numbers and not fewer than the kind
requires. -/
theorem convertible_iff :
    (∃ coordinates, object.toCoordinates kind = .ok coordinates) ↔
      kind.leastArity ≤ (object.leading kind).length ∧
        ∀ name ∈ object.leading kind,
          ∃ number, object.channel? name = some number ∧ number.isFinite = true := by
  simp only [toCoordinates_ok_iff]
  constructor
  · rintro ⟨coordinates, numbers, channels, made⟩
    obtain ⟨⟨enough, _, finite⟩, _⟩ := Coordinates.ofNumbers_some_iff.1 made
    refine ⟨channels.length_eq ▸ enough, fun name member => ?_⟩
    obtain ⟨number, inNumbers, read⟩ := exists_of_forall₂_right channels.flip member
    exact ⟨number, read, finite number inNumbers⟩
  · rintro ⟨enough, each⟩
    obtain ⟨numbers, channels⟩ := exists_forall₂ each
    have read := channels.imp fun _ _ both => both.1
    have room : (object.leading kind).length ≤ kind.arity :=
      (List.takeWhile_prefix _).length_le
    have finite : ∀ number ∈ numbers, number.isFinite = true := fun number member => by
      obtain ⟨_, _, both⟩ := exists_of_forall₂_right channels member
      exact both.2
    rw [channels.length_eq] at enough room
    obtain ⟨coordinates, made⟩ := Coordinates.exists_ofNumbers ⟨enough, room, finite⟩
    exact ⟨coordinates, numbers, read, made⟩

/-- The leading channels hold the numbers of their attributes, and the others are zero. -/
theorem get_channel {coordinates : Coordinates} {numbers : List Float}
    (channels : List.Forall₂ (fun name number => object.channel? name = some number)
      (object.leading kind) numbers)
    (made : Coordinates.ofNumbers? kind numbers = some coordinates) {name : String}
    (member : name ∈ kind.componentNames) :
    coordinates.get? name =
      if name ∈ object.leading kind then object.channel? name else some 0 := by
  obtain ⟨_, rfl, padded⟩ := Coordinates.ofNumbers_some_iff.1 made
  let others := coordinates.kind.componentNames.dropWhile fun name => (object.value? name).isSome
  have split : object.leading coordinates.kind ++ others = coordinates.kind.componentNames :=
    List.takeWhile_append_dropWhile
  have count : coordinates.kind.arity - numbers.length = others.length := by
    rw [VectorKind.arity, ← split, List.length_append, channels.length_eq, Nat.add_sub_cancel_left]
  have apart : ∀ name ∈ others, name ∉ object.leading coordinates.kind := by
    have distinct := coordinates.kind.componentNames_nodup
    rw [← split, List.nodup_append] at distinct
    exact fun name inOthers inLeading => distinct.2.2 name inLeading name inOthers rfl
  have pairs : List.Forall₂ (fun name number =>
      (if name ∈ object.leading coordinates.kind then object.channel? name else some 0) =
        some number) coordinates.kind.componentNames coordinates.components := by
    rw [← split, padded, count, ← List.map_const']
    apply List.rel_append
    · apply ((List.forall₂_and_left _ _).2 ⟨fun _ inLeading => inLeading, channels⟩).imp
      rintro name number ⟨inLeading, read⟩
      rw [if_pos inLeading, read]
    · rw [List.forall₂_map_right_iff, List.forall₂_same]
      exact fun name inOthers => if_neg (apart name inOthers)
  exact find_zip pairs member

/-- All channels hold the numbers of their attributes, except for the transmit channel of a colour
that has no filter. -/
theorem channels_kept_iff (enough : kind.leastArity ≤ (object.leading kind).length) :
    (∀ name ∈ kind.componentNames, name ∈ object.leading kind ∨ object.channel? name = some 0) ↔
      (kind = .color → object.value? "f" = none → object.channel? "t" = some 0) := by
  have required : kind.componentNames.take kind.leastArity <+: object.leading kind :=
    List.prefix_of_prefix_length_le (List.take_prefix _ _) (List.takeWhile_prefix _)
      ((List.length_take_le _ _).trans enough)
  rw [← List.take_append_drop kind.leastArity kind.componentNames, List.forall_mem_append,
    and_iff_right fun name member => .inl (required.subset member)]
  cases kind with
  | color =>
      have optional : object.leading .color = ["r", "g", "b"] ++
          ["f", "t"].takeWhile fun name => (object.value? name).isSome :=
        List.takeWhile_append_of_pos fun name member =>
          List.mem_takeWhile_imp (required.subset member)
      have names : VectorKind.color.componentNames.drop VectorKind.color.leastArity = ["f", "t"] :=
        rfl
      rw [optional, names]
      cases filter : object.value? "f" with
      | none => simp [filter, channel?]
      | some _ => cases transmit : object.value? "t" <;> simp [filter, transmit, channel?]
  | _ => exact iff_of_true (List.forall_mem_nil _) nofun

/-- The conversion of an object of a class of tuples is that of its kind. -/
theorem toCoordinates_of_reached {cls : Class} (known : catalog.class? kind.className = some cls)
    (reached : cls.Reachable object) :
    object.toCoordinates? = some (object.toCoordinates kind) := by
  have named : object.className = kind.className :=
    (Class.className_of_fits reached.fits).trans (Catalog.class_known known).1
  have found : VectorKind.ofClassName? kind.className = some kind := by
    cases kind <;> decide
  rw [toCoordinates?, named, found, Option.map_some]

/-- An object of a class of tuples becomes a tuple if its leading components are finite numbers and
those that the kind requires are among them. The tuple has the numbers of the leading components,
and zero in place of the others. These are the numbers of all attributes unless the object is a
colour that has a transmit channel other than zero and no filter. -/
theorem toCoordinates_channels {cls : Class} (known : catalog.class? kind.className = some cls)
    (reached : cls.Reachable object) :
    ((∃ coordinates, object.toCoordinates? = some (.ok coordinates)) ↔
        kind.leastArity ≤ (object.leading kind).length ∧
          ∀ name ∈ object.leading kind,
            ∃ number, object.channel? name = some number ∧ number.isFinite = true) ∧
      ∀ coordinates, object.toCoordinates? = some (.ok coordinates) →
        coordinates.kind = kind ∧
        (∀ name ∈ kind.componentNames, coordinates.get? name =
          if name ∈ object.leading kind then object.channel? name else some 0) ∧
        ((∀ name ∈ kind.componentNames, coordinates.get? name = object.channel? name) ↔
          (kind = .color → object.value? "f" = none → object.channel? "t" = some 0)) := by
  simp only [toCoordinates_of_reached known reached, Option.some.injEq]
  constructor
  · exact convertible_iff
  · intro coordinates converted
    obtain ⟨numbers, channels, made⟩ := toCoordinates_ok_iff.1 converted
    have get (name : String) (member : name ∈ kind.componentNames) :
        coordinates.get? name =
          if name ∈ object.leading kind then object.channel? name else some 0 :=
      get_channel channels made member
    obtain ⟨fits, sameKind, _⟩ := Coordinates.ofNumbers_some_iff.1 made
    refine ⟨sameKind, get, ?_⟩
    rw [← channels_kept_iff (by rw [channels.length_eq]; exact fits.1)]
    apply forall₂_congr
    intro name member
    rw [get name member]
    split
    · rename_i here
      exact iff_of_true rfl (.inl here)
    · rename_i elsewhere
      rw [or_iff_right elsewhere, eq_comm]

end Object

def Catalog.colorClass : Class := ⟨colorVector, []⟩

theorem catalog_color : catalog.class? "Color" = some Catalog.colorClass :=
  Catalog.class_of_top (by rfl) rfl

namespace Object

/-- A colour of three numbers, without filter and transmit channel. -/
def tint : Object := Catalog.colorClass.blank
  |>.put "r" (.literal (.float 0.25)) |>.put "g" (.literal (.float 0.5))
  |>.put "b" (.literal (.float 1))

theorem tint_made : Catalog.colorClass.Makes tint :=
  .numbers [0.25, 0.5, 1] rfl rfl rfl

/-- The colour with a filter. -/
def filtering : Object :=
  Catalog.colorClass.run tint [.set "f" (.literal (.float 0.5)), .set "t" .unset]

/-- The colour with a transmit channel and no filter. -/
def transmitting : Object :=
  Catalog.colorClass.run tint [.set "f" .unset, .set "t" (.literal (.float 0.5))]

/-- A filter stands in its channel. -/
theorem filtering_channels :
    catalog.class? VectorKind.color.className = some Catalog.colorClass ∧
      Catalog.colorClass.Reachable filtering ∧
      ∃ coordinates, filtering.toCoordinates? = some (.ok coordinates) ∧
        coordinates.kind = .color ∧ coordinates.get? "f" = some 0.5 ∧
        ∀ name ∈ VectorKind.color.componentNames,
          coordinates.get? name = filtering.channel? name := by
  have reached : Catalog.colorClass.Reachable filtering := ⟨_, _, tint_made, rfl⟩
  have converted : filtering.toCoordinates? =
      some (.ok ⟨.color, [0.25, 0.5, 1, 0.5, 0], rfl, by decide⟩) := rfl
  have known : catalog.class? VectorKind.color.className = some Catalog.colorClass := catalog_color
  obtain ⟨sameKind, _, kept⟩ := (toCoordinates_channels known reached).2 _ converted
  have all := kept.2 nofun
  exact ⟨catalog_color, reached, _, converted, sameKind, all "f" (by decide), all⟩

/-- The transmit channel is set, and zero in the tuple. -/
theorem transmitting_dropped :
    Catalog.colorClass.Reachable transmitting ∧
      ∃ coordinates, transmitting.toCoordinates? = some (.ok coordinates) ∧
        transmitting.channel? "t" = some 0.5 ∧ coordinates.get? "t" = some 0 ∧
        coordinates.get? "t" ≠ transmitting.channel? "t" := by
  have converted : transmitting.toCoordinates? =
      some (.ok ⟨.color, [0.25, 0.5, 1, 0, 0], rfl, by decide⟩) := rfl
  refine ⟨⟨_, _, tint_made, rfl⟩, _, converted, rfl, rfl, ?_⟩
  decide

end Object

end SceneCatalog
