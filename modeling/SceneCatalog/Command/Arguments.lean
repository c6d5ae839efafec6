/-
This file reads the arguments of the command line.
-/

namespace SceneCatalog

inductive Command where
  | generate (out : Option String) (skipsCheck : Bool)
  | check
  | list
  | describe (className : String) (asJson : Bool)
  deriving Repr, DecidableEq

structure Invocation where
  config : Option String
  command : Command
  deriving Repr, DecidableEq

namespace CommandLine

/-- The shapes of arguments: two dashes alone, an option, a group of letters, and any other. -/
inductive Argument where
  | separator
  | option (name : String) (value : Option String)
  | letters (letters : List Char)
  | word
  deriving Repr, DecidableEq

/-- The value of an option may stand behind the first equals sign. -/
def Argument.ofText (content : String) : Argument :=
  match content.toList with
  | ['-', '-'] => separator
  | '-' :: '-' :: rest =>
    let name := rest.takeWhile fun c => c != '='
    match rest.drop name.length with
    | _ :: value => option (String.ofList name) (some (String.ofList value))
    | [] => option (String.ofList name) none
  | '-' :: first :: rest => letters (first :: rest)
  | _ => word

/-- What may stand behind the program or behind one of its commands. -/
structure Form where
  paths : List String
  switches : List String
  words : Nat
  deriving Repr, DecidableEq

structure Given where
  paths : List (String × String) := []
  switches : List String := []
  words : List String := []
  deriving Repr, DecidableEq

/-- No option is given twice, and no path is empty. -/
def Given.path? (given : Given) (name value : String) : Option Given :=
  if value.isEmpty || (given.paths.lookup name).isSome then none
  else some { given with paths := (name, value) :: given.paths }

def Given.switch? (given : Given) (name : String) : Option Given :=
  if given.switches.contains name then none
  else some { given with switches := name :: given.switches }

/-- Everything behind the two dashes is a word. -/
def Form.words? (form : Form) (given : Given) (rest : List String) : Option Given :=
  let words := given.words ++ rest
  if words.length ≤ form.words then some { given with words } else none

/-- Reads up to the first word that there is no room for. The word and those behind it are left. -/
def Form.read? (form : Form) (given : Given) : List String → Option (Given × List String)
  | [] => some (given, [])
  | content :: rest =>
    match Argument.ofText content with
    | .separator => (form.words? given rest).map fun given => (given, [])
    | .option "verbose" none => form.read? given rest
    | .option name (some value) =>
      if form.paths.contains name then
        (given.path? name value).bind fun given => form.read? given rest
      else none
    | .option name none =>
      if form.paths.contains name then
        match rest with
        | value :: rest =>
          if Argument.ofText value = .word then
            (given.path? name value).bind fun given => form.read? given rest
          else none
        | [] => none
      else if form.switches.contains name then
        (given.switch? name).bind fun given => form.read? given rest
      else none
    | .letters marks => if marks.all (· == 'v') then form.read? given rest else none
    | .word =>
      if given.words.length < form.words then
        form.read? { given with words := given.words ++ [content] } rest
      else some (given, content :: rest)

def programForm : Form := ⟨["config"], [], 0⟩

def commandForm? : String → Option Form
  | "generate" => some ⟨["config", "out"], ["no-check"], 0⟩
  | "check" => some ⟨["config"], [], 0⟩
  | "list" => some ⟨["config"], [], 0⟩
  | "describe" => some ⟨["config"], ["json"], 1⟩
  | _ => none

def command? (name : String) (given : Given) : Option Command :=
  match name, given.words with
  | "generate", [] =>
    some (.generate (given.paths.lookup "out") (given.switches.contains "no-check"))
  | "check", [] => some .check
  | "list", [] => some .list
  | "describe", [className] => some (.describe className (given.switches.contains "json"))
  | _, _ => none

/-- The environment counts where the command line gives no path, behind the program or behind the
command. Of two paths on the command line the last one counts. -/
def config? (program command : Given) (environment : Option String) : Option (Option String) :=
  let outer := program.paths.lookup "config"
  let inner := command.paths.lookup "config"
  if environment = some "" && (outer.isNone || inner.isNone) then none
  else some ((inner.or outer).or environment)

end CommandLine

open CommandLine in
/-- The invocation that the arguments stand for, if they are well formed. -/
def Invocation.ofArguments? (arguments : List String) (environment : Option String) :
    Option Invocation := do
  let (program, rest) ← programForm.read? {} arguments
  match rest with
  | [] => none
  | name :: rest =>
    let form ← commandForm? name
    let (given, rest) ← form.read? {} rest
    if rest.isEmpty then
      return ⟨← config? program given environment, ← command? name given⟩
    else none

end SceneCatalog
