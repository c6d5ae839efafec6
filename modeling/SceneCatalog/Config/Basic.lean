import SceneCatalog.Toml.Reading
import SceneCatalog.Source.Style

/-
This file holds the settings of the generator.
-/

namespace SceneCatalog

structure GeneratorConfig where
  output : String := "classes.rs"
  indent : String := "    "
  dividerWidth : Nat := 80
  wrapWidth : Nat := 77
  checkSyntax : Bool := true
  deriving Repr, DecidableEq

structure LogConfig where
  level : String := "info"
  deriving Repr, DecidableEq

structure Config where
  generator : GeneratorConfig := {}
  log : LogConfig := {}
  deriving Repr, DecidableEq

namespace Config

def standard : Config := {}

def text? : Toml → Option String
  | .string content => some content
  | _ => none

/-- Widths fit into a machine word. -/
def width? : Toml → Option Nat
  | .int number =>
    if 0 ≤ number && number.toNat < Nat.pow 2 64 then some number.toNat else none
  | _ => none

def flag? : Toml → Option Bool
  | .bool flag => some flag
  | _ => none

/-- One setting of a section. Unknown names and values of other types are refused. -/
abbrev Setting (Section : Type) := Section → String → Toml → Option Section

def generatorSetting : Setting GeneratorConfig := fun config name value =>
  match name with
  | "output" => (text? value).map fun output => { config with output }
  | "indent" => (text? value).map fun indent => { config with indent }
  | "divider_width" => (width? value).map fun dividerWidth => { config with dividerWidth }
  | "wrap_width" => (width? value).map fun wrapWidth => { config with wrapWidth }
  | "check_syntax" => (flag? value).map fun checkSyntax => { config with checkSyntax }
  | _ => none

def generatorNames : List String :=
  ["output", "indent", "divider_width", "wrap_width", "check_syntax"]

def logSetting : Setting LogConfig := fun config name value =>
  match name with
  | "level" => (text? value).map fun level => { config with level }
  | _ => none

def logNames : List String := ["level"]

def setAll {Section : Type} (setting : Setting Section) (config : Section) :
    List (String × Toml) → Option Section
  | [] => some config
  | (name, value) :: rest => (setting config name value).bind fun next => setAll setting next rest

/-- A section is a table, or an array of its settings in order, of which the last may be missing
and further items do not count. -/
def readSection {Section : Type} (setting : Setting Section) (names : List String)
    (config : Section) : Toml → Option Section
  | .table members => setAll setting config members
  | .array items => setAll setting config (names.zip items)
  | _ => none

def configSetting : Setting Config := fun config name value =>
  match name with
  | "generator" =>
    (readSection generatorSetting generatorNames config.generator value).map fun generator =>
      { config with generator }
  | "log" =>
    (readSection logSetting logNames config.log value).map fun log => { config with log }
  | _ => none

/-- Settings that a text leaves out keep their standard values. -/
def read? (text : String) : Option Config :=
  (Toml.read? text).bind (setAll configSetting standard)

end Config

/-- The layout of code that the settings ask for. -/
def GeneratorConfig.style (config : GeneratorConfig) : Source.Style :=
  { Source.Style.standard with
    indent := config.indent
    dividerWidth := config.dividerWidth
    wrapWidth := config.wrapWidth }

end SceneCatalog
