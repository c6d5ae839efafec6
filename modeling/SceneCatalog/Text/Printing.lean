import SceneCatalog.Text.PrintTable
import SceneCatalog.Text.Ranges

/-
This file tells which characters are written as they are.
-/

namespace SceneCatalog.Text

def isPrintable (c : Char) : Bool :=
  if c.toNat < 128 then 32 ≤ c.toNat && c.toNat < 127
  else !inRanges unprintableRanges c.toNat

/-- Marks that attach to the character in front of them. -/
def isExtending (c : Char) : Bool :=
  128 ≤ c.toNat && inRanges extendingRanges c.toNat

end SceneCatalog.Text
