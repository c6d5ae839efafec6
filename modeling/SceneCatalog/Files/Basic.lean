import SceneCatalog.Text.Blank

/-
This file models a tree of text files and the paths that lead to them.
-/

namespace SceneCatalog

inductive FileError where
  | notFound
  | notDirectory
  | isDirectory
  | nameTooLong
  | nulInPath
  | other (message : String)
  deriving Repr, DecidableEq

def FileError.message : FileError → String
  | notFound => "No such file or directory (os error 2)"
  | notDirectory => "Not a directory (os error 20)"
  | isDirectory => "Is a directory (os error 21)"
  | nameTooLong => "File name too long (os error 36)"
  | nulInPath => "file name contained an unexpected NUL byte"
  | other message => message

/-- Nothing that the error speaks of is a file. -/
def FileError.meansNoFile : FileError → Bool
  | other _ => false
  | _ => true

/-- The names on the way from the root to a file or directory. -/
abbrev Route := List String

/-- The parent of the root is the root. -/
def Route.parent (route : Route) : Route := route.dropLast

/-- The directories are the working directory and those on the way to it and to files. -/
structure Files where
  entries : List (Route × String) := []
  workingDirectory : Route := []
  deriving Repr, DecidableEq

namespace Files

def content? (files : Files) (route : Route) : Option String := files.entries.lookup route

def isFile (files : Files) (route : Route) : Bool := (files.content? route).isSome

def isDirectory (files : Files) (route : Route) : Bool :=
  List.isPrefixOf route files.workingDirectory ||
    files.entries.any fun entry => List.isPrefixOf route entry.1 && route.length < entry.1.length

def put (files : Files) (route : Route) (content : String) : Files :=
  { files with
    entries := (route, content) :: files.entries.filter fun entry => entry.1 != route }

/-- A name has at most 255 bytes. -/
def checkName (name : String) : Except FileError Unit :=
  if name.utf8ByteSize ≤ 255 then .ok () else .error .nameTooLong

/-- Goes from directory to directory. -/
def enter (files : Files) (here : Route) : List String → Except FileError Route
  | [] => .ok here
  | "." :: rest => files.enter here rest
  | ".." :: rest => files.enter (Route.parent here) rest
  | name :: rest => do
    checkName name
    let next := here ++ [name]
    if files.isDirectory next then files.enter next rest
    else throw (if files.isFile next then .notDirectory else .notFound)

/-- Where a path ends: in a directory, or at a name that stands in one. A path with a slash at its
end asks for a directory. -/
inductive Place where
  | directory
  | named (route : Route) (asksDirectory : Bool)
  deriving Repr, DecidableEq

/-- Paths that do not begin with a slash begin in the working directory. -/
def locate (files : Files) (path : String) : Except FileError Place := do
  let names := ((Text.splitAt '/' path.toList).filter fun name => !name.isEmpty).map String.ofList
  let start := if path.startsWith "/" then [] else files.workingDirectory
  if path.toList.contains (Char.ofNat 0) then throw .nulInPath
  if path.isEmpty then throw .notFound
  if path.utf8ByteSize ≥ 4096 then throw .nameTooLong
  match names.getLast? with
  | none => return .directory
  | some last =>
    if last == "." || last == ".." then
      let _ ← files.enter start names
      return .directory
    else
      let here ← files.enter start names.dropLast
      checkName last
      return .named (here ++ [last]) (path.endsWith "/")

def read (files : Files) (path : String) : Except FileError String := do
  match ← files.locate path with
  | .directory => throw .isDirectory
  | .named route asksDirectory =>
    if files.isDirectory route then throw .isDirectory
    match files.content? route with
    | none => throw .notFound
    | some content => if asksDirectory then throw .notDirectory else return content

/-- A file that is there is replaced. No directories are made. -/
def write (files : Files) (path content : String) : Except FileError Files := do
  match ← files.locate path with
  | .directory => throw .isDirectory
  | .named route asksDirectory =>
    if asksDirectory || files.isDirectory route then throw .isDirectory
    return files.put route content

/-- The files with the directories that their paths go through, below the working directory. -/
def ofList (workingDirectory : Route) (contents : List (String × String)) : Files :=
  contents.foldl
    (fun files entry =>
      let names := (Text.splitAt '/' entry.1.toList).map String.ofList
      files.put (workingDirectory ++ names.filter fun name => name != "" && name != ".") entry.2)
    { workingDirectory }

end Files

end SceneCatalog
