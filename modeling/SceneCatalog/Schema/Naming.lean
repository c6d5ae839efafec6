import SceneCatalog.Text.Words

/-
This file derives the names in generated code from those of classes and attributes.
-/

namespace SceneCatalog.Naming

/-- Digits stay with the word in front of them, and only changes of case separate words. -/
def attributeWords : Text.WordRule := ⟨[], false⟩

/-- Digits are words, and blanks, hyphens and underscores separate words too. -/
def classWords : Text.WordRule := ⟨['_', '-', ' '], true⟩

/-- The method that reads an attribute. -/
def methodName (name : String) : String := attributeWords.snake name

/-- The class in lower case, which names its module. -/
def snakeName (className : String) : String := classWords.snake className

/-- The methods that every class has. -/
def reservedMethods : List String :=
  ["apply", "assign", "base", "descriptor", "get", "missing_required", "new", "require"]

/-- Words that name nothing in generated code, not even with a mark in front of them. -/
def neverNames : List String := ["crate", "self", "super", "_"]

def longestName : Nat := 64

/-- A capital letter, then letters and digits. -/
def isPascalCase (name : String) : Bool :=
  name.toList.head?.any Char.isUpper && name.toList.all Char.isAlphanum

/-- A small letter, then letters and digits. -/
def isCamelCase (name : String) : Bool :=
  name.toList.head?.any Char.isLower && name.toList.all Char.isAlphanum

end SceneCatalog.Naming
