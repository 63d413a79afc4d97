import CodeGraph.Definition
import CodeGraph.Path

/-!
# Candidate files of an import

The paths that an import statement may mean, in the order in which they are tried.

## Main definitions

* `pythonBase`, `pythonCandidates`: modules and packages.
* `scriptCandidates`: files, emitted files and index files.
* `javaCandidates`: one file for each class.
* `meaningfulStem`: the name to fall back to.
-/

namespace CodeGraph

/-- Extensions of script files, in the order in which they are tried. -/
def scriptExtensions : List String :=
  [".ts", ".tsx", ".js", ".jsx", ".mjs", ".cjs", ".mts", ".cts", ".d.ts"]

/-- Extensions of the files that an import of a language may reach by name. -/
def extensionFamily (language : String) : List String :=
  if language = "python" then [".py", ".pyi"]
  else if language = "java" then [".java"]
  else if language ∈ ["javascript", "typescript", "tsx"] then scriptExtensions
  else []

/-- The directory a number of steps further up. -/
def Path.climb : Nat → String → String
  | 0, path => path
  | n + 1, path => climb n (Path.directory path)

/-- The path of a module without extension; leading dots count from the importing file. -/
def pythonBase (importer moduleName : String) (level : Int) : String :=
  let parts := Text.segments '.' moduleName
  if 0 < level then parts.foldl Path.join (Path.climb level.toNat importer)
  else Text.join "/" parts

/-- A module file, its interface file, or a package. -/
def pythonCandidates (base : String) : List String :=
  if base = "" then [] else [base ++ ".py", base ++ ".pyi", base ++ "/__init__.py"]

/-- Extensions of emitted script files. -/
def emittedExtensions : List String :=
  [".js", ".jsx", ".mjs", ".cjs"]

/-- Extensions of the sources that are imported through the name of the file they emit. -/
def emittingExtensions : List String :=
  [".ts", ".tsx", ".mts", ".cts"]

/-- The path that a module text means to an importing file. -/
def scriptBase (importer moduleName : String) : String :=
  if Text.startsWith "." moduleName then
    Path.collapse (Path.join (Path.directory importer) moduleName)
  else Text.trimStartWhile (· = '/') moduleName

/-- The path itself, sources of an emitted file, completed extensions, and index files. -/
def scriptCandidates (importer moduleName : String) : List String :=
  let base := scriptBase importer moduleName
  if Text.startsWith "../" base || base = ".." then []
  else
    let sources := if Path.extension base ∈ emittedExtensions then
      emittingExtensions.map (Path.stem base ++ ·) else []
    base :: sources ++ scriptExtensions.map (base ++ ·)
      ++ scriptExtensions.map (base ++ "/index" ++ ·)

/-- The file of a class. -/
def javaCandidates (moduleName : String) : List String :=
  [Text.replaceChar '.' '/' moduleName ++ ".java"]

/-- Whether a module text names a package rather than a path. -/
def isBareModule (moduleName : String) : Bool :=
  !Text.startsWith "." moduleName && !Text.startsWith "/" moduleName

/-- The name of a candidate without extension, or of its directory for an index or package file. -/
def meaningfulStem (candidate : String) : String :=
  let parts := Text.split '/' candidate
  let stem := Path.stem (parts.getLast?.getD "")
  let stem := if Text.endsWith ".d" stem then Text.dropEnd 2 stem else stem
  if stem ∈ ["__init__", "index"] then parts.dropLast.getLast?.getD stem else stem

end CodeGraph
