import SceneCatalog.Proofs.Scene.Complete
import SceneCatalog.Proofs.Scene.Legible
import SceneCatalog.Proofs.Scene.Rows
import SceneCatalog.Proofs.Scene.Sound
import SceneCatalog.Proofs.Scene.Suitable

/-
This file shows what the clauses of a block need, and that what they write keeps a property of
texts.
-/

namespace SceneCatalog

open Markup Text

/-- What a clause needs is set, and the objects that it writes are complete. -/
structure Clause.Ready (complete : Object → Prop) (object : Object) (clause : Clause) : Prop where
  needs : ∀ name ∈ clause.needs, (object.value? name).isSome
  parts : ∀ name ∈ clause.partNames, ∀ value, object.value? name = some value →
    ∀ child, value.Holds child → complete child
  swept : clause.composes = true → object.Swept

/-- A clause without objects is ready when what it needs is set. -/
theorem Clause.Ready.of_needs {complete : Object → Prop} {object : Object} {clause : Clause}
    (set : ∀ name ∈ clause.needs, (object.value? name).isSome)
    (parts : clause.partNames = [] := by rfl) (composes : clause.composes = false := by rfl) :
    clause.Ready complete object where
  needs := set
  parts := by simp [parts]
  swept composed := absurd composed (by simp [composes])

theorem Clause.Ready.free {complete : Object → Prop} {object : Object} {clause : Clause}
    (needs : clause.needs = [] := by rfl) (parts : clause.partNames = [] := by rfl)
    (composes : clause.composes = false := by rfl) : clause.Ready complete object :=
  .of_needs (by simp [needs]) parts composes

/-- A clause for objects that needs nothing but them is ready when they are complete. -/
theorem Clause.ready_iff {complete : Object → Prop} {object : Object} {clause : Clause}
    {name : String} {value : Value} (found : object.value? name = some value)
    (partNames : clause.partNames = [name]) (needs : clause.needs ⊆ [name])
    (composes : clause.composes = false) :
    clause.Ready complete object ↔ ∀ child, value.Holds child → complete child := by
  constructor
  · intro ready
    exact ready.parts name (by simp [partNames]) value found
  · intro each
    refine ⟨?_, ?_, by simp [composes]⟩
    · intro needed member
      obtain rfl := List.mem_singleton.1 (needs member)
      simp [found]
    · simpa [partNames, found] using each

theorem Text.marks_of_isUnmarked {text : String} (unmarked : Text.isUnmarked text = true) :
    marks text.toList = [] := by
  simpa [Text.isUnmarked] using unmarked

/-- A required attribute is read exactly when it has the value. -/
theorem Object.required_ok_iff {object : Object} {name : String} {value : Value} :
    object.required name = .ok value ↔ object.value? name = some value := by
  unfold Object.required
  cases object.value? name <;> simp

/-- Reading a required attribute fails only when it is not set. -/
theorem Object.required_delivers (object : Object) (name : String) :
    Delivers (object.value? name).isSome (fun value => object.value? name = some value)
      (object.required name) := by
  unfold Object.required
  cases found : object.value? name with
  | some value => exact .delivered rfl rfl
  | none => exact .missing nofun

section Lines

variable {holds : List Char → Prop} (formal : Formal holds)
include formal

/-- Commas between texts keep the property. -/
theorem separated_held {texts : List String} (held : ∀ text ∈ texts, Phrase holds text) :
    ∀ text ∈ separated texts, Phrase holds text := by
  induction texts with
  | nil => exact held
  | cons first rest inductionHypothesis =>
      cases rest with
      | nil => exact held
      | cons next rest =>
          obtain ⟨firstHeld, others⟩ := List.forall_mem_cons.1 held
          have split : separated (first :: next :: rest) =
              (first ++ ",") :: separated (next :: rest) := rfl
          rw [split, List.forall_mem_cons]
          exact ⟨formal.beside firstHeld (formal.words rfl), inductionHypothesis others⟩

/-- Items that are texts with the property are joined to one. -/
theorem joined_gives {items : List Value} (textual : ∀ item ∈ items, item.Textual holds)
    (writer : NodeWriter) : Gives (Phrase holds) (joined writer items) := by
  apply (Gives.mapM fun item member => (textual item member).verbatim formal writer).bind
  intro texts held
  exact .ok (formal.intercalate rfl held)

/-- A list of points with the property gives lines that have it together. -/
theorem pointLines_gives {value : Value} (textual : value.Textual holds) (writer : NodeWriter)
    (perRow : Nat) (counted : Bool) :
    Gives (Passage holds) (pointLines writer perRow counted value) := by
  unfold pointLines
  split
  · exact (textual.verbatim formal writer).map fun _ held => passage_single held
  · rename_i items shape
    obtain rfl := Value.list_of_asList shape
    cases textual with
    | list each =>
        have rowsGiven : ∀ row ∈ rows perRow items, Gives (Phrase holds) (joined writer row) := by
          intro row member
          apply joined_gives formal
          exact fun item inRow => each item (rows_mem member item inRow)
        apply (Gives.mapM rowsGiven).bind
        intro texts held
        apply Gives.ok
        apply formal.join
        intro text member
        rcases List.mem_append.1 member with count | row
        · cases counted with
          | false => contradiction
          | true =>
              obtain rfl := List.mem_singleton.1 count
              exact formal.beside (formal.words (marks_natural _)) (formal.words rfl)
        · exact separated_held formal held text row

end Lines

section Attributes

variable {holds : List Char → Prop} {cls : Class} {object : Object}
  (legible : object.Legible holds cls) {name : String} (text : cls.readsText name = true)
include legible text

/-- What is written of an attribute that has to be set. -/
theorem required_text {Item : Type} {good : Item → Prop} {shown : Value → Except SceneError Item}
    (gives : ∀ value, value.Textual holds → Gives good (shown value)) :
    Delivers (∀ needed ∈ [name], (object.value? needed).isSome) good
      (object.required name >>= shown) := by
  have delivered := (object.required_delivers name).bind fun value found =>
    Delivers.of_gives (gives value (legible.texts text found)) trivial
  exact delivered.congr (by simp)

/-- What is written of an attribute if it is set. -/
theorem ifSet_gives {shown : Value → Except SceneError String}
    (gives : ∀ value, value.Textual holds → Gives (Phrase holds) (shown value)) :
    Gives (Sound holds) (match object.value? name with
      | some value => Clause.oneLine (shown value)
      | none => .ok []) := by
  split
  · rename_i value found
    exact (gives value (legible.texts text found)).map fun _ held => .line held
  · exact .ok .nil

/-- Whatever an optional attribute shows has the property. -/
theorem textIfSet_gives (formal : Formal holds) (writer : NodeWriter) :
    Gives (fun shown => ∀ content, shown = some content → Phrase holds content)
      (textIfSet writer object name) := by
  unfold textIfSet
  split
  · rename_i value found
    apply ((legible.texts text found).verbatim formal writer).map
    intro content held other same
    exact Option.some.inj same ▸ held
  · exact .ok nofun

end Attributes

section Pieces

variable {holds : List Char → Prop} (formal : Formal holds) {cls : Class} {object : Object}
  (legible : object.Legible holds cls)
include formal legible

/-- A piece that suits its class is written when what it needs is set. -/
theorem Piece.write_delivers {piece : Piece} (suits : piece.suits cls = true)
    (writer : NodeWriter) :
    Delivers (∀ name ∈ piece.needs, (object.value? name).isSome) (Phrase holds)
      (piece.write writer object) := by
  cases piece with
  | words text => exact .of_gives (.ok (formal.words (marks_of_isUnmarked suits))) nofun
  | value name =>
      exact required_text legible suits fun value textual => textual.verbatim formal writer
  | quoted name =>
      exact required_text legible suits fun value textual => textual.inline formal writer 0
  | angled name =>
      exact required_text legible suits fun value textual => textual.angled formal writer
  | keyed vocabulary name =>
      rw [Piece.suits, Bool.and_eq_true, List.all_eq_true] at suits
      have free : ∀ keyword ∈ vocabulary, marks keyword.word.toList = [] :=
        fun keyword member => marks_of_isUnmarked (suits.2 keyword member)
      exact required_text legible suits.1 fun value textual =>
        textual.keyed formal free writer
  | optional lead name =>
      rw [Piece.suits, Bool.and_eq_true] at suits
      refine .of_gives ((textIfSet_gives legible suits.2 formal writer).bind ?_) nofun
      intro shown held
      cases shown with
      | none => exact .ok (formal.words rfl)
      | some text =>
          exact .ok (formal.beside (formal.words (marks_of_isUnmarked suits.1)) (held text rfl))

/-- A line of pieces is written when all that they need is set. -/
theorem linePieces_delivers {pieces : List Piece} (suits : ∀ piece ∈ pieces, piece.suits cls = true)
    (writer : NodeWriter) :
    Delivers (∀ name ∈ pieces.flatMap Piece.needs, (object.value? name).isSome) (Phrase holds)
      ((pieces.mapM (Piece.write writer object)).map String.join) := by
  have each := Delivers.mapM fun piece member =>
    Piece.write_delivers formal legible (suits piece member) writer
  have joined : Delivers _ (Phrase holds)
      ((pieces.mapM (Piece.write writer object)).map String.join) :=
    each.map fun texts held => by
      rw [Phrase, String.toList_join]
      exact formal.join held
  apply joined.congr
  simp only [List.mem_flatMap]
  constructor
  · rintro all name ⟨piece, member, needed⟩
    exact all piece member name needed
  · intro all piece member name needed
    exact all name ⟨piece, member, needed⟩

end Pieces

section Parts

variable {holds : List Char → Prop} {complete : Object → Prop} {writer : NodeWriter}

theorem Body.toExcept_ofExcept (result : Except SceneError (List Markup)) :
    (Body.ofExcept result).toExcept = result := by
  cases result <;> rfl

/-- A body in two parts is written one part after the other. -/
theorem Body.toExcept_append (first second : Body) :
    (first.append second).toExcept = (do
      let above ← first.toExcept
      return above ++ (← second.toExcept)) := by
  obtain ⟨entries, failure⟩ := first
  obtain ⟨others, further⟩ := second
  cases failure <;> cases further <;> rfl

/-- Objects stand one below the other, and are written if all of them are complete. -/
theorem bodyOfItems_delivers {items : List Value} (nodes : ∀ item ∈ items, item.isNode = true)
    (writes : ∀ child, (Value.list items).Holds child →
      Delivers (complete child) (fun block => Sound holds [block]) (writer child)) :
    Delivers (∀ child, (Value.list items).Holds child → complete child) (Sound holds)
      (Value.bodyOfItems writer items).toExcept := by
  induction items with
  | nil =>
      refine .of_gives (.ok .nil) ?_
      intro child held
      obtain ⟨item, member, _⟩ := Value.holds_list_iff.1 held
      contradiction
  | cons item rest inductionHypothesis =>
      obtain ⟨node, restNodes⟩ := List.forall_mem_cons.1 nodes
      obtain ⟨identity, child, rfl⟩ := Value.isNode_iff.1 node
      have held (other : Object) : (Value.list (.node identity child :: rest)).Holds other ↔
          other = child ∨ (Value.list rest).Holds other := by
        simp only [Value.holds_list_iff, List.exists_mem_cons_iff, Value.holds_node_iff]
      have first := writes child ((held child).2 (.inl rfl))
      have others := inductionHypothesis restNodes fun other within =>
        writes other ((held other).2 (.inr within))
      have here : Delivers (complete child) (Sound holds)
          (Value.body writer (.node identity child)).toExcept := by
        rw [Value.body, Body.toExcept_ofExcept]
        exact first.map fun block sound => sound
      rw [Value.bodyOfItems, Body.toExcept_append]
      refine (here.bind fun above aboveSound => ?_).congr (?_ : complete child ∧
        (∀ other, (Value.list rest).Holds other → complete other) ↔ _)
      · have stacked : Delivers _ (Sound holds)
            ((Value.bodyOfItems writer rest).toExcept.map (above ++ ·)) :=
          others.map fun below belowSound => aboveSound.append belowSound
        exact stacked
      · simp only [held, forall_eq_or_imp]

/-- A list of components is written when each component is complete. -/
theorem Value.Parts.body_delivers {value : Value} (parts : value.Parts)
    (held : ∀ content, value.Mentions content → Phrase holds content)
    (writes : ∀ child, value.Holds child →
      Delivers (complete child) (fun block => Sound holds [block]) (writer child)) :
    Delivers (∀ child, value.Holds child → complete child) (Sound holds)
      (value.body writer).toExcept := by
  cases parts with
  | code content =>
      refine .of_gives (.ok (.line (held content (.inr .here)))) ?_
      rintro child ⟨identity, within⟩
      cases within
  | node identity object =>
      have first := writes object (Value.holds_node_iff.2 rfl)
      rw [Value.body, Body.toExcept_ofExcept]
      have single : Delivers (complete object) (Sound holds)
          ((writer object).map fun block => [block]) :=
        first.map fun block sound => sound
      exact single.congr (by simp [Value.holds_node_iff])
  | @list items some each =>
      have nodes : items.any Value.isNode = true := by
        obtain ⟨item, member⟩ := List.exists_mem_of_ne_nil items some
        exact List.any_eq_true.2 ⟨item, member, each item member⟩
      rw [Value.body, nodes]
      exact bodyOfItems_delivers each writes

end Parts

section Clauses

variable {holds : List Char → Prop} (formal : Formal holds) {cls : Class} {object : Object}
  (legible : object.Legible holds cls) {complete : Object → Prop} {writer : NodeWriter}
  (writes : ∀ child, object.Holds child →
    Delivers (complete child) (fun block => Sound holds [block]) (writer child))
include formal legible writes

/-- Each clause writes sound blocks and lines if it is ready, and misses an attribute if not. -/
theorem Clause.write_delivers {clause : Clause} (suits : clause.suits cls = true)
    (composed : ∀ compose, clause = .lines compose →
      Delivers object.Swept (Passage holds) (compose writer object)) :
    Delivers (clause.Ready complete object) (Sound holds) (clause.write writer object) := by
  have keyworded {keyword : String} (unmarked : isUnmarked keyword = true) {content : String}
      (held : Phrase holds content) : Phrase holds (keyword ++ " " ++ content) :=
    formal.beside
      (formal.beside (formal.words (marks_of_isUnmarked unmarked)) (formal.words rfl)) held
  cases clause with
  | line pieces =>
      have delivered := (linePieces_delivers formal legible (List.all_eq_true.1 suits) writer).map
        fun text held => Sound.line held
      exact delivered.congr ⟨fun set => .of_needs set, fun ready => ready.needs⟩
  | setting name keyword =>
      rw [Clause.suits, Bool.and_eq_true] at suits
      refine .of_gives (ifSet_gives legible suits.2 fun value textual => ?_) .free
      exact (textual.verbatim formal writer).map fun _ held => keyworded suits.1 held
  | file name keyword =>
      rw [Clause.suits, Bool.and_eq_true] at suits
      refine .of_gives (ifSet_gives legible suits.2 fun value textual => ?_) .free
      exact (textual.inline formal writer 0).map fun _ held => keyworded suits.1 held
  | bare name =>
      refine .of_gives (ifSet_gives legible suits fun value textual => ?_) .free
      exact textual.verbatim formal writer
  | flag name keyword =>
      have held := formal.words (marks_of_isUnmarked suits)
      refine .of_gives (.ok ?_) .free
      split
      · exact .line held
      · exact .nil
  | toggle name keyword =>
      refine .of_gives ?_ .free
      rw [Clause.write]
      split
      · rename_i state _
        have word : Phrase holds (onOff state) := formal.words (by cases state <;> rfl)
        exact .ok (.line (keyworded suits word))
      · exact .ok .nil
  | switchedOff name text =>
      have held := formal.words (marks_of_isUnmarked suits)
      refine .of_gives (.ok ?_) .free
      split
      · exact .line held
      · exact .nil
  | parts name =>
      rw [Clause.write, Object.required]
      cases found : object.value? name with
      | none => exact .missing fun ready => by simpa [found] using ready.needs name (.head _)
      | some value =>
          obtain ⟨parts, held, within⟩ := legible.parts suits found
          have delivered := parts.body_delivers held fun child inside =>
            writes child (within child inside)
          exact delivered.congr
            (Clause.ready_iff found rfl (List.Subset.refl _) rfl).symm
  | nested name keyword =>
      rw [Clause.suits, Bool.and_eq_true] at suits
      rw [Clause.write]
      cases found : object.value? name with
      | none =>
          refine .of_gives (.ok .nil) ⟨List.forall_mem_nil _, ?_, by simp [composes]⟩
          intro other member value read
          obtain rfl := List.mem_singleton.1 member
          rw [found] at read
          contradiction
      | some value =>
          obtain ⟨parts, held, within⟩ := legible.parts suits.2 found
          have delivered := parts.body_delivers held fun child inside =>
            writes child (within child inside)
          have nested : Delivers _ (fun block => Sound holds [block])
              (value.nested writer keyword) :=
            delivered.map fun body sound =>
              .block (by simp) (marks_of_isUnmarked suits.1) sound .nil
          have single : Delivers _ (Sound holds)
              ((value.nested writer keyword).map fun block => [block]) :=
            nested.map fun block sound => sound
          exact single.congr (Clause.ready_iff found rfl (List.nil_subset _) rfl).symm
  | points name perRow counted =>
      have delivered := required_text legible suits fun value textual =>
        (pointLines_gives formal textual writer perRow counted).bind fun texts held =>
          .ok (Sound.passage held)
      exact delivered.congr ⟨fun set => .of_needs set, fun ready => ready.needs⟩
  | lines compose =>
      have delivered := (composed compose rfl).map fun texts held => Sound.passage held
      exact delivered.congr
        ⟨fun swept => ⟨List.forall_mem_nil _, List.forall_mem_nil _, fun _ => swept⟩,
          fun ready => ready.swept rfl⟩

end Clauses

end SceneCatalog
