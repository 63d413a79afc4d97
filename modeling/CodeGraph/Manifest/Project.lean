import CodeGraph.Manifest.Fault
import CodeGraph.Manifest.Lines
import CodeGraph.Manifest.Requirement
import CodeGraph.Toml.Reader

/-!
# Definitions of project files

Requirements and scripts in the tables of a TOML document. Values that count as absent are skipped;
other values of the wrong shape stop the file.

## Main definitions

* `Manifest.harvestTables`: the definitions in the tables of a document.
* `Manifest.harvestPyproject`: the definitions of a project file.
-/

namespace CodeGraph.Manifest

/--
How deep the values of a document may be nested, in frames of the stack. This is the interpreter's
limit on recursion, 1000, less the frames in use where a value is read.
-/
def maxTableNesting : Nat := 986

/-- The entries of a value that has to be a table. -/
def asTable : Toml → Except Fault Toml.Entries
  | .table entries => .ok entries
  | _ => .error .notTable

/-- A value of a table if it counts as present. -/
def presentValue? (entries : Toml.Entries) (key : String) : Option Toml :=
  (entries.lookup key).filter Toml.truthy

/-- A table below a key, empty if nothing is present there. -/
def subtable (entries : Toml.Entries) (key : String) : Except Fault Toml.Entries :=
  match presentValue? entries key with
  | some v => asTable v
  | none => .ok []

/-- The items of a value that can be run through: items, keys of a table, letters of a text. -/
def iterate : Toml → Except Fault (List Toml)
  | .list items => .ok items
  | .table entries => .ok (entries.map fun e => .text e.1)
  | .text s => .ok (s.toList.map fun c => .text (String.ofList [c]))
  | _ => .error .wrongType

/-- The items below a key, none if nothing is present there. -/
def subitems (entries : Toml.Entries) (key : String) : Except Fault (List Toml) :=
  match presentValue? entries key with
  | some v => iterate v
  | none => .ok []

/-- The items of all values of a list, in order. -/
def iterateAll : List Toml → Except Fault (List Toml)
  | [] => .ok []
  | v :: vs => do
    let items ← iterate v
    let more ← iterateAll vs
    return items ++ more

/-- Whether a value may be a key: anything but a collection. -/
def asKey : Toml → Except Fault Toml
  | .list _ => .error .wrongType
  | .table _ => .error .wrongType
  | v => .ok v

/-- The key of an item that has to be a pair. -/
def pairKey (item : Toml) : Except Fault Toml := do
  match (← iterate item) with
  | [key, _] => asKey key
  | _ => .error .notPair

/-- The keys of a value that is a table or a sequence of pairs. -/
def keysOf : Toml → Except Fault (List Toml)
  | .table entries => .ok (entries.map fun e => .text e.1)
  | v => do
    let items ← iterate v
    items.mapM pairKey

/-- The keys below a key, none if nothing is present there. -/
def subkeys (entries : Toml.Entries) (key : String) : Except Fault (List Toml) :=
  match presentValue? entries key with
  | some v => keysOf v
  | none => .ok []

/-- A value that has to be a text. -/
def asText : Toml → Except Fault String
  | .text s => .ok s
  | _ => .error .wrongType

/-- The requirements that the project table lists, the optional ones after the others. -/
def projectRequirements (project : Toml.Entries) : Except Fault (List Toml) := do
  let main ← subitems project "dependencies"
  let extras ← subtable project "optional-dependencies"
  let optional ← iterateAll (extras.map Prod.snd)
  return main ++ optional

/-- The requirements that the tool table lists, but for the language itself. -/
def toolRequirements (poetry : Toml.Entries) : Except Fault (List Toml) := do
  let items ← subitems poetry "dependencies"
  return items.filter fun v => match v with
    | .text s => s ≠ "python"
    | _ => true

/-- Names of the requirements, each once. -/
def requirementNames (requirements : List Toml) : Except Fault (List String) := do
  let texts ← requirements.mapM asText
  return Text.distinct (texts.filterMap requirementName?)

/-- Requirements and scripts of a project file. -/
def harvestTables (path : String) (ls : Lines) (data : Toml.Entries) :
    Except Fault (List Definition) := do
  let project ← subtable data "project"
  let listed ← projectRequirements project
  let tool ← subtable data "tool"
  let poetry ← subtable tool "poetry"
  let more ← toolRequirements poetry
  let names ← requirementNames (listed ++ more)
  let scripts ← subkeys project "scripts"
  let moreScripts ← subkeys poetry "scripts"
  let scriptNames ← (scripts ++ moreScripts).mapM asText
  return (names.map fun n => ls.define path n .variableDecl (ls.find n 1))
    ++ (Text.distinct scriptNames).map fun n => ls.define path n .functionDecl (ls.find n 1)

/-- Why a document was not read. -/
def tomlFailure : Toml.Failure → Failure
  | .malformed reason => .malformed ("invalid TOML: " ++ reason)
  | .tooManyDigits => .unusable .tooManyDigits
  | .tooDeep => .unusable .tooDeep

/-- Requirements and scripts of a project file. -/
def harvestPyproject (path content : String) (ls : Lines) : Except Failure (List Definition) :=
  match Toml.parse { digits := maxDigits, depth := maxTableNesting } content with
  | .error failure => .error (tomlFailure failure)
  | .ok data => Failure.lift (harvestTables path ls data)

end CodeGraph.Manifest
