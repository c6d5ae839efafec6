import SceneCatalog.Text.CaseTable

/-
This file changes letters to lower case and tells the two cases apart.
-/

namespace SceneCatalog.Text

/-- The lower case of a character, itself when it has none. -/
def lowered (c : Char) : List Char :=
  if c.toNat < 128 then [c.toLower]
  else if c == 'İ' then ['i', Char.ofNat 0x307]
  else match loweredRuns.find? (·.contains c.toNat) with
    | some run => [Char.ofNat (c.toNat + run.offset).toNat]
    | none => [c]

/-- Capitals change in lower case and not in upper case. -/
def isCapital (c : Char) : Bool :=
  if c.toNat < 128 then c.isUpper
  else lowered c != [c] && !inRanges titleRanges c.toNat

/-- Small letters change in upper case and not in lower case. -/
def isSmall (c : Char) : Bool :=
  if c.toNat < 128 then c.isLower
  else smallRuns.any (·.contains c.toNat)

def isCased (c : Char) : Bool := isCapital c || isSmall c || inRanges titleRanges c.toNat

end SceneCatalog.Text
