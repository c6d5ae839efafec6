import SceneCatalog.Command.Arguments
import SceneCatalog.Command.Report
import SceneCatalog.Config.Loading
import SceneCatalog.Source.Generation

/-
This file runs the commands of the program.
-/

namespace SceneCatalog

inductive CommandError where
  | config (error : ConfigError)
  | generation (error : Source.GenerationError)
  | file (error : FileError)
  | layout (row : Text.RaggedRow)
  | unknownClass (name : String)

def CommandError.message : CommandError → String
  | config error => error.message
  | generation error => error.message
  | file error => error.message
  | layout row => row.message
  | unknownClass name => "unknown class '" ++ name ++ "'"

namespace Command

/-- What a command prints, or why it fails. -/
abbrev Answer := Except CommandError String

def checkText (catalog : Catalog) : Answer :=
  match catalog.review with
  | .ok () => .ok (toString catalog.length ++ " classes ok\n")
  | .error issues => .error (.generation (.faults issues))

def listText (catalog : Catalog) : Answer := catalog.listing.mapError .layout

def describeText (catalog : Catalog) (className : String) (asJson : Bool) : Answer :=
  match catalog.find? className with
  | none => .error (.unknownClass className)
  | some table =>
    if asJson then .ok (table.json.indented 0 ++ "\n") else table.describe.mapError .layout

def reportText (path source : String) : String :=
  "wrote " ++ toString source.utf8ByteSize ++ " bytes to " ++ path ++ "\n"

/-- The source of the catalog is written to the path of the command line or to that of the
settings. -/
def generateSession (catalog : Catalog) (config : GeneratorConfig) (out : Option String)
    (skipsCheck : Bool) : Session Answer :=
  let path := out.getD config.output
  match Source.render catalog config.style (config.checkSyntax && !skipsCheck) with
  | .error error => .finish (.error (.generation error))
  | .ok source =>
    .write path source fun
      | .ok () => .finish (.ok (reportText path source))
      | .error error => .finish (.error (.file error))

def session (catalog : Catalog) (config : GeneratorConfig) : Command → Session Answer
  | generate out skipsCheck => generateSession catalog config out skipsCheck
  | check => .finish (checkText catalog)
  | list => .finish (listText catalog)
  | describe className asJson => .finish (describeText catalog className asJson)

end Command

/-- The settings are loaded before the command runs, whether it needs them or not. -/
def Invocation.session (catalog : Catalog) (invocation : Invocation) : Session Command.Answer :=
  let settings := match invocation.config with
    | some path => Config.load path
    | none => Config.discover "."
  settings.andThen fun
    | .error error => .finish (.error (.config error))
    | .ok config => invocation.command.session catalog config.generator

end SceneCatalog
