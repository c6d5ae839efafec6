import SceneCatalog.Files.Session
import SceneCatalog.Config.Basic

/-
This file finds and loads the settings.
-/

namespace SceneCatalog

inductive ConfigError where
  | unreadable (path : String) (error : FileError)
  | malformed (path : String)
  deriving Repr, DecidableEq

def ConfigError.message : ConfigError → String
  | unreadable path error => "reading " ++ path ++ ": " ++ error.message
  | malformed path => "parsing " ++ path ++ ": not a table of settings"

namespace Config

def ofContent (path content : String) : Except ConfigError Config :=
  match read? content with
  | some config => .ok config
  | none => .error (.malformed path)

/-- The settings of a file that has to be there. -/
def load (path : String) : Session (Except ConfigError Config) :=
  .read path fun
    | .ok content => .finish (ofContent path content)
    | .error error => .finish (.error (.unreadable path error))

def fileName : String := "povgen.toml"

/-- One slash stands between the directory and the name of the file. -/
def pathIn (directory : String) : String :=
  if directory.isEmpty || directory.endsWith "/" then directory ++ fileName
  else directory ++ "/" ++ fileName

/-- The settings of the file in a directory, or the standard settings if there is no such file. -/
def discover (directory : String) : Session (Except ConfigError Config) :=
  let path := pathIn directory
  .read path fun
    | .ok content => .finish (ofContent path content)
    | .error error =>
      if error.meansNoFile then .finish (.ok standard)
      else .finish (.error (.unreadable path error))

end Config

end SceneCatalog
