import CodeGraph.Manifest.Document
import CodeGraph.Manifest.Project
import CodeGraph.Text.Case

/-!
# Definitions of configuration files

Scripts count as functions; dependencies, aliases, images and environment variables as variables.

## Main definitions

* `Manifest.Format`: the known kinds of configuration files, by file name.
* `Manifest.harvest`: the definitions of a file.
-/

namespace CodeGraph.Manifest

/-- The known kinds of configuration files. -/
inductive Format where
  | packageJson
  | tsconfig
  | dockerfile
  | dotenv
  | requirements
  | pyproject
deriving DecidableEq, Repr, Inhabited

/-- The kind of a configuration file by its name in lower case. -/
def Format.ofName? (name : String) : Option Format :=
  if name = "package.json" then some packageJson
  else if Text.startsWith "tsconfig" name && Text.endsWith ".json" name then some tsconfig
  else if Text.startsWith "dockerfile" name then some dockerfile
  else if Text.startsWith ".env" name then some dotenv
  else if Text.startsWith "requirements" name && Text.endsWith ".txt" name then some requirements
  else if name = "pyproject.toml" then some pyproject
  else none

/-! ### Line by line -/

/-- The base image of a line that starts a build stage. -/
def baseImage? (line : String) : Option String :=
  let stripped := Text.trim line
  let keyword := String.ofList ((stripped.toList.take 5).map Char.toUpper)
  if keyword = "FROM " then
    let image := Text.trim (Text.before " as " (Text.before " AS " (Text.drop 5 stripped)))
    if image = "" then none else some image
  else none

/-- A letter or an underscore. -/
def isNameStart (c : Char) : Bool :=
  c.isAlpha || c = '_'

/-- A code point of a variable name. -/
def isNameChar (c : Char) : Bool :=
  c.isAlphanum || c = '_' || c = '.'

/-- A variable name at the front, if an equals sign follows it after blanks. -/
def assignedName? (cs : List Char) : Option String :=
  let name := cs.takeWhile isNameChar
  match name with
  | c :: _ =>
    if isNameStart c && ((cs.dropWhile isNameChar).dropWhile Text.isBlank).head? = some '=' then
      some (String.ofList name)
    else none
  | [] => none

/-- What follows the word `export` and at least one blank. -/
def afterExport? (cs : List Char) : Option (List Char) :=
  let word := "export".toList
  if word.isPrefixOf cs then
    let rest := cs.drop word.length
    if (rest.head?.map Text.isBlank).getD false then some (rest.dropWhile Text.isBlank) else none
  else none

/-- The variable that a line of an environment file sets. -/
def variableName? (line : String) : Option String :=
  let cs := line.toList.dropWhile Text.isBlank
  if cs.head? = some '#' then none
  else ((afterExport? cs).bind assignedName?) <|> assignedName? cs

/-- The requirement on a line that is neither a comment nor an option. -/
def requiredName? (line : String) : Option String :=
  let stripped := Text.trim line
  if Text.startsWith "#" stripped || Text.startsWith "-" stripped then none
  else requirementName? stripped

/-- One variable for each line that a reader finds a name on. -/
def harvestLines (path : String) (ls : Lines) (name? : String → Option String) :
    List Definition :=
  ls.numbered.filterMap fun (i, line) =>
    (name? line).map fun name => ls.define path name .variableDecl i

/-! ### All formats -/

/-- The definitions of a configuration file; a file of no known kind has none. -/
def harvest (path content : String) : Except Failure (List Definition) :=
  let ls := Lines.ofText content
  match Format.ofName? (Text.lower (Path.name path)) with
  | some .packageJson => harvestPackage path content ls
  | some .tsconfig => harvestTsconfig path content ls
  | some .dockerfile => .ok (harvestLines path ls baseImage?)
  | some .dotenv => .ok (harvestLines path ls variableName?)
  | some .requirements => .ok (harvestLines path ls requiredName?)
  | some .pyproject => harvestPyproject path content ls
  | none => .ok []

end CodeGraph.Manifest
