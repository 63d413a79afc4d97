import CodeGraph.Definition
import CodeGraph.Registry.Trie

/-!
# The definition registry

The symbol table that resolution looks names up in. Definitions stand in a trie under the segments
of their qualified names; further indexes list them by file and by name, and list files by their
trailing path segments and by their stem. A registry only grows.

## Main definitions

* `Registry.addDefinition`, `Registry.registerFile`: growth.
* `Registry.qualified`, `Registry.below`, `Registry.endingWith`: look-up through the trie.
* `Registry.namedIn`, `Registry.inFile`, `Registry.named`: look-up by name and file.
* `Registry.filesEndingWith`, `Registry.filesWithStem`: look-up of files.
* `importDistance`, `closest`: ranking of files by their distance from an importer.
-/

namespace CodeGraph

/-- Segments of a dotted name; empty ones do not count. -/
def nameSegments (name : String) : List String :=
  Text.segments '.' name

/-- Definitions and files, indexed for resolution. -/
structure Registry where
  trie : Trie Definition := .empty
  byFile : OrderedMap String (List Definition) := ∅
  byName : OrderedMap String (List Definition) := ∅
  bySuffix : OrderedMap String (List String) := ∅
  byStem : OrderedMap String (List String) := ∅
  files : List String := []
  count : Nat := 0
deriving Inhabited

namespace Registry

/-- The registry without definitions and files. -/
def empty : Registry :=
  {}

/-! ### Growth -/

/-- Index a file by its trailing path segments and its stem, once. -/
def registerFile (r : Registry) (path : String) : Registry :=
  if path ∈ r.files then r
  else
    let add := fun files : List String => files ++ [path]
    { r with
      files := r.files ++ [path]
      bySuffix := (Path.suffixes path).foldl (fun m s => m.alter s [] add) r.bySuffix
      byStem := r.byStem.alter (Path.stem (Path.name path)) [] add }

/-- Add a definition, and its file. -/
def addDefinition (r : Registry) (d : Definition) : Registry :=
  let grown := { r with
    trie := r.trie.insert (nameSegments d.qualifiedName) d
    byFile := r.byFile.alter d.filePath [] (· ++ [d])
    byName := r.byName.alter d.name [] (· ++ [d])
    count := r.count + 1 }
  grown.registerFile d.filePath

/-! ### Look-up of definitions -/

/-- The definitions with exactly this qualified name, in order of insertion. -/
def qualified (r : Registry) (name : String) : List Definition :=
  r.trie.itemsAt (nameSegments name)

/-- The definitions whose qualified name has these leading segments. -/
def below (r : Registry) (name : String) : List Definition :=
  r.trie.below (nameSegments name)

/-- The definitions whose qualified name has these trailing segments. -/
def endingWith (r : Registry) (name : String) : List Definition :=
  r.trie.endingWith (nameSegments name)

/-- The definitions with a given name. -/
def named (r : Registry) (name : String) : List Definition :=
  r.byName.getD name []

/-- The definitions of a file. -/
def inFile (r : Registry) (path : String) : List Definition :=
  r.byFile.getD path []

/-- The definitions of a file with a given name. -/
def namedIn (r : Registry) (path name : String) : List Definition :=
  (r.inFile path).filter (·.name = name)

/-! ### Look-up of files -/

/-- Whether a file is registered. -/
def hasFile (r : Registry) (path : String) : Bool :=
  path ∈ r.files

/-- The files that end with whole path segments, in order of their paths. -/
def filesEndingWith (r : Registry) (suffix : String) : List String :=
  Text.sort (r.bySuffix.getD (Text.trimWhile (· = '/') suffix) [])

/-- The files whose name without extension is the given one, in order of their paths. -/
def filesWithStem (r : Registry) (stem : String) : List String :=
  Text.sort (r.byStem.getD stem [])

/-- Number of trie nodes, the root included. -/
def trieSize (r : Registry) : Nat :=
  r.trie.size

end Registry

/-! ### Distance between files -/

/-- Number of equal leading items of two lists. -/
def commonLength : List String → List String → Nat
  | x :: xs, y :: ys => if x = y then commonLength xs ys + 1 else 0
  | _, _ => 0

/-- Directory distance between two files; files of one directory come one step nearer. -/
def importDistance (source target : String) : Nat :=
  let a := Text.segments '/' source
  let b := Text.segments '/' target
  let common := commonLength a b
  let distance := max a.length b.length - common
  if common + 1 = min a.length b.length then distance - 1 else distance

/-- Whether a candidate is preferred to another: nearer, or as near and earlier in path order. -/
def isCloser (source a b : String) : Bool :=
  let da := importDistance source a
  let db := importDistance source b
  da < db || (da = db && a < b)

/-- The nearest candidate. -/
def closest (source : String) : List String → Option String
  | [] => none
  | c :: cs => some (cs.foldl (fun best p => if isCloser source p best then p else best) c)

end CodeGraph
