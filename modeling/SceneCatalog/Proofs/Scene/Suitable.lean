import SceneCatalog.Proofs.Catalog.Contents

/-
This file checks the clauses of layouts against the attributes of their classes.
-/

namespace SceneCatalog

def Text.isUnmarked (text : String) : Bool := (Text.marks text.toList).isEmpty

/-- The attribute that a piece of a line cannot do without. -/
def Piece.needs : Piece → List String
  | words _ => []
  | value name => [name]
  | quoted name => [name]
  | angled name => [name]
  | keyed _ name => [name]
  | optional _ _ => []

/-- A piece writes words without marks and attributes without objects. -/
def Piece.suits (cls : Class) : Piece → Bool
  | words text => Text.isUnmarked text
  | value name => cls.readsText name
  | quoted name => cls.readsText name
  | angled name => cls.readsText name
  | keyed vocabulary name =>
    cls.readsText name && vocabulary.all fun keyword => Text.isUnmarked keyword.word
  | optional lead name => Text.isUnmarked lead && cls.readsText name

namespace Clause

def needs : Clause → List String
  | line pieces => pieces.flatMap Piece.needs
  | parts name => [name]
  | points name _ _ => [name]
  | _ => []

/-- The attributes whose objects are written. -/
def partNames : Clause → List String
  | parts name => [name]
  | nested name _ => [name]
  | _ => []

/-- The clause composes lines by itself. -/
def composes : Clause → Bool
  | lines _ => true
  | _ => false

/-- Clauses that compose lines by themselves are not looked into. -/
def suits (cls : Class) : Clause → Bool
  | line pieces => pieces.all (·.suits cls)
  | setting name keyword => Text.isUnmarked keyword && cls.readsText name
  | file name keyword => Text.isUnmarked keyword && cls.readsText name
  | bare name => cls.readsText name
  | flag _ keyword => Text.isUnmarked keyword
  | toggle _ keyword => Text.isUnmarked keyword
  | switchedOff _ text => Text.isUnmarked text
  | parts name => cls.readsParts name
  | nested name keyword => Text.isUnmarked keyword && cls.readsParts name
  | points name _ _ => cls.readsText name
  | lines _ => true

end Clause

namespace Section

def clauses : Section → List Clause
  | always clauses => clauses
  | whileOn _ clauses => clauses
  | blockWhileOn _ _ clauses => clauses

/-- The keyword of a section that is a block of its own. -/
def keywords : Section → List String
  | blockWhileOn _ keyword _ => [keyword]
  | _ => []

def suits (cls : Class) (part : Section) : Bool :=
  part.clauses.all (·.suits cls) && part.keywords.all Text.isUnmarked

end Section

def Layout.suits (layout : Layout) (cls : Class) : Bool := layout.sections.all (·.suits cls)

/-- What can be checked layout by layout holds of every layout in use. -/
theorem Layout.all_of_class (check : Layout → Class → Bool)
    (checked : (Layout.ofObjects.all fun entry =>
      (catalog.class? entry.1).any fun cls => check entry.2 cls) = true)
    {className : String} {layout : Layout} (laid : (className, layout) ∈ Layout.ofObjects)
    {cls : Class} (known : catalog.class? className = some cls) : check layout cls = true := by
  have here := List.all_eq_true.1 checked _ laid
  simpa [known] using here

/-- Every layout suits its class, which is checked over all of them. -/
theorem layouts_suit : (Layout.ofObjects.all fun entry => (catalog.class? entry.1).any fun cls =>
    entry.2.suits cls && cls.readsText "id") = true := by
  decide +kernel

theorem globalSettings_suits :
    ((catalog.class? "GlobalSettings").any fun cls => Layout.globalSettings.suits cls) = true := by
  decide +kernel

/-- The settings take texts only and have no `id`. -/
theorem globalSettings_plain : ((catalog.class? "GlobalSettings").all fun cls =>
    (cls.tables.all fun table => table.attributes.all Attribute.takesTexts) &&
      (cls.declaration? "id").isNone) = true := by
  decide +kernel

end SceneCatalog
