import SceneCatalog.Number.Format
import SceneCatalog.Schema.ClassTable
import SceneCatalog.Source.Names
import SceneCatalog.Source.Style
import SceneCatalog.Text.Quoted

/-
This file writes the source of a class from its table.
-/

namespace SceneCatalog.Source

/-- What has to be finite in generated code. -/
inductive FinitePart where
  | literal
  | margin
  deriving Repr, DecidableEq

/-- Numbers that are not finite have no literal, margins have to be counted, and rows of a table
have to be equally long. -/
inductive ClassError where
  | notFinite {part : FinitePart}
  | ragged (row : Text.RaggedRow)
  deriving Repr, DecidableEq

namespace ClassError

def noLiteral : ClassError := @notFinite .literal

def tooDeep : ClassError := @notFinite .margin

def message : ClassError → String
  | @notFinite .literal => "a number is not finite"
  | @notFinite .margin => "a margin is too long"
  | ragged row => row.message

end ClassError

/-- The expression of a constant; there is none for the absence of a value. -/
def constantExpression : Constant → Except ClassError (Option String)
  | .null => .ok none
  | .bool flag => .ok (some ("Value::Bool(" ++ (if flag then "true" else "false") ++ ")"))
  | .int number => .ok (some ("Value::Int(" ++ toString number.toInt ++ ")"))
  | .float number =>
    if number.isFinite then .ok (some ("Value::Float(" ++ Number.literal.write number ++ ")"))
    else .error .noLiteral
  | .text content => .ok (some ("Value::from(" ++ Text.sourceLiteral content ++ ")"))

def opening : String := " \x7b"

def closing : String := "\x7d"

open Line

def headerLines (table : ClassTable) : List Line :=
  [rule 0 .double, paragraph table.descriptionOrName, rule 0 .double]

/-- The instance of the superclass comes before the fields of the attributes. -/
def structLines (table : ClassTable) : List Line :=
  [code 0 "#[derive(Clone, Debug)]", code 0 ("pub struct " ++ table.name ++ opening)] ++
  table.superclass.toList.map (fun superclass => code 1 ("base: " ++ superclass ++ ",")) ++
  table.immutables.map (fun immutable =>
    code 1 (fieldIdent immutable.name ++ ": Option<Value>,")) ++
  table.attributes.map (fun rule => code 1 (fieldIdent rule.name ++ ": Slot,")) ++
  [code 0 closing]

def fieldRow (name value : String) : List String := [fieldIdent name ++ ":", " ", value ++ ","]

def immutableRow (immutable : Immutable) : Except ClassError (List String) := do
  match ← constantExpression immutable.value with
  | some expression => return fieldRow immutable.name ("Some(" ++ expression ++ ")")
  | none => return fieldRow immutable.name "None"

def attributeRow (rule : Attribute) : Except ClassError (List String) := do
  match ← constantExpression (rule.initial.getD .null) with
  | some expression => return fieldRow rule.name ("Slot::Literal(" ++ expression ++ ")")
  | none => return fieldRow rule.name "Slot::Unset"

/-- The rows under a heading, unless there are none. -/
def fieldTable (heading : String) (cells : List (List String)) : List Line :=
  if cells.isEmpty then [] else [code 3 ("// " ++ heading ++ " //"), .rows 3 cells]

/-- The lines of a body without the blanks at their ends. -/
def bodyLines (body : String) : List Line :=
  (Text.lines body).map fun line =>
    let text := Text.trimEnd line.toList
    if text.isEmpty then blank else code 2 (String.ofList text)

def optionsBody : List Line :=
  [code 2 ("for (name, val) in options" ++ opening), code 3 "this.assign(&name, val)?;",
   code 2 closing]

def constructorLines (table : ClassTable) : Except ClassError (List Line) := do
  let immutables ← table.immutables.mapM immutableRow
  let attributes ← table.attributes.mapM attributeRow
  return [
      code 1 ("pub fn new(" ++ table.parameters.getD "options: Options" ++
        ") -> Result<Self, Error>" ++ opening),
      code 2 ("let mut this = Self" ++ opening)] ++
    table.superclass.toList.map (fun superclass =>
      code 3 ("base: " ++ superclass ++ "::new(Options::new())?,")) ++
    fieldTable "Immutable properties" immutables ++
    fieldTable "Mutable properties" attributes ++
    [code 2 (closing ++ ";"), blank, code 2 "// Initialization //"] ++
    (match table.body with
      | some body => bodyLines body
      | none => optionsBody) ++
    [blank, code 2 "Ok(this)", code 1 closing]

def getterHead (name : String) : List Line :=
  [rule 1 .single, blank, code 1 "#[must_use]",
   code 1 ("pub fn " ++ fieldIdent name ++ "(&self) -> Option<Value>" ++ opening)]

def setterHead (name argument : String) : Line :=
  code 1 ("pub fn " ++ setterIdent name ++ "(&mut self, " ++ argument ++
    ": impl Into<Slot>) -> Result<(), Error>" ++ opening)

def immutableLines (immutable : Immutable) : List Line :=
  getterHead immutable.name ++ [
    code 2 ("self." ++ fieldIdent immutable.name ++ ".clone()"),
    code 1 closing,
    blank,
    setterHead immutable.name "_val",
    code 2 ("Err(Error::read_only(Self::NAME, \"" ++ immutable.name ++ "\"))"),
    code 1 closing]

/-- A setter asks the rule of the attribute, which it finds by its place in the table. -/
def storeLines (index : Nat) (declared : Attribute) : List Line :=
  let target := "self." ++ fieldIdent declared.name
  if declared.validator.isSome then [
    code 2 ("let rule = &Self::descriptor().mutable[" ++ toString index ++ "];"),
    code 2 (target ++ " = rule.accept(Self::NAME, val.into())?;")]
  else [
    code 2 ("// FIXME: " ++ declared.name ++ " has no validator; every value is accepted."),
    code 2 (target ++ " = val.into();")]

def attributeLines (entry : Attribute × Nat) : List Line :=
  let (declared, index) := entry
  getterHead declared.name ++ [
    code 2 ("match &self." ++ fieldIdent declared.name ++ opening),
    code 3 "Slot::Deferred(f) => Some(f()),",
    code 3 "Slot::Raw(expr) => Some(Value::Sdl(expr.clone())),",
    code 3 "Slot::Literal(val) => Some(val.clone()),",
    code 3 "Slot::Unset => None,",
    code 2 closing,
    code 1 closing,
    blank,
    setterHead declared.name "val"] ++
  storeLines index declared ++ [
    blank,
    code 2 "Ok(())",
    code 1 closing]

/-- Blank lines stand between the parts. -/
def spaced (parts : List (List Line)) : List Line := (parts.intersperse [blank]).flatten

def methodLines (table : ClassTable) : Except ClassError (List Line) := do
  let constructor ← constructorLines table
  return [code 0 ("impl " ++ table.name ++ opening)] ++
    spaced (constructor :: table.immutables.map immutableLines ++
      table.attributes.zipIdx.map attributeLines) ++
    [code 0 closing]

/-- Names that the class does not have go on to its superclass. -/
def fallback (table : ClassTable) (call : String) : String :=
  if table.superclass.isSome then "self.base." ++ call
  else "Err(Error::unknown_attribute(Self::NAME, name))"

def traitLines (table : ClassTable) : List Line :=
  [code 0 ("impl Class for " ++ table.name ++ opening),
   code 1 ("const NAME: &'static str = \"" ++ table.name ++ "\";"),
   blank,
   code 1 ("fn descriptor() -> &'static EntityDescriptor" ++ opening),
   code 2 ("&" ++ table.location.path),
   code 1 closing,
   blank,
   code 1 ("fn assign(&mut self, name: &str, val: Slot) -> Result<(), Error>" ++ opening),
   code 2 ("match name" ++ opening)] ++
  table.attributeNames.map (fun name =>
    code 3 ("\"" ++ name ++ "\" => self." ++ setterIdent name ++ "(val),")) ++
  [code 3 ("_ => " ++ fallback table "assign(name, val)" ++ ","),
   code 2 closing,
   code 1 closing,
   blank,
   code 1 ("fn get(&self, name: &str) -> Result<Option<Value>, Error>" ++ opening),
   code 2 ("match name" ++ opening)] ++
  table.attributeNames.map (fun name =>
    code 3 ("\"" ++ name ++ "\" => Ok(self." ++ fieldIdent name ++ "()),")) ++
  [code 3 ("_ => " ++ fallback table "get(name)" ++ ","),
   code 2 closing,
   code 1 closing,
   code 0 closing]

/-- An object of the class stands in for one of its superclass. -/
def derefLines (name superclass : String) : List (List Line) := [
  [code 0 ("impl ::std::ops::Deref for " ++ name ++ opening),
   code 1 ("type Target = " ++ superclass ++ ";"),
   blank,
   code 1 ("fn deref(&self) -> &Self::Target" ++ opening),
   code 2 "&self.base",
   code 1 closing,
   code 0 closing],
  [code 0 ("impl ::std::ops::DerefMut for " ++ name ++ opening),
   code 1 ("fn deref_mut(&mut self) -> &mut Self::Target" ++ opening),
   code 2 "&mut self.base",
   code 1 closing,
   code 0 closing]]

def classLines (table : ClassTable) : Except ClassError (List Line) := do
  let methods ← methodLines table
  return spaced ([headerLines table, structLines table, methods, traitLines table] ++
    (table.superclass.toList.flatMap (derefLines table.name)))

/-- Lines are written if all their margins can be. -/
def writeLines (style : Style) (lines : List Line) : Except ClassError String :=
  if lines.all fun line => style.holds line.stops then (Line.writeAll style lines).mapError .ragged
  else .error .tooDeep

/-- The source of a class, in comments, a structure and its implementations. -/
def classText (table : ClassTable) (style : Style) : Except ClassError String := do
  writeLines style (← classLines table)

end SceneCatalog.Source
