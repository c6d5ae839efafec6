import SceneCatalog.Files.Basic

/-
This file describes programs that read and write files.
-/

namespace SceneCatalog

/-- A session asks for one file after the other and ends with a result. -/
inductive Session (Result : Type) where
  | finish (result : Result)
  | read (path : String) (next : Except FileError String → Session Result)
  | write (path content : String) (next : Except FileError Unit → Session Result)

namespace Session

def andThen {First Second : Type} (session : Session First)
    (continuation : First → Session Second) : Session Second :=
  match session with
  | finish result => continuation result
  | read path next => read path fun answer => (next answer).andThen continuation
  | write path content next =>
    write path content fun answer => (next answer).andThen continuation

/-- What a session finds in a tree of files, and the tree it leaves. -/
def run {Result : Type} (session : Session Result) (files : Files) : Result × Files :=
  match session with
  | finish result => (result, files)
  | read path next => (next (files.read path)).run files
  | write path content next =>
    match files.write path content with
    | .ok changed => (next (.ok ())).run changed
    | .error error => (next (.error error)).run files

end Session

end SceneCatalog
