/-
This file maps the keys of string attributes to words of the scene language.
-/

namespace SceneCatalog

structure Keyword where
  key : String
  word : String
  deriving Repr, DecidableEq

abbrev Vocabulary := List Keyword

/-- The word of the first entry that has the key. -/
def Vocabulary.word? (vocabulary : Vocabulary) (key : String) : Option String :=
  (vocabulary.find? (·.key == key)).map (·.word)

end SceneCatalog
