import CodeGraph.Graph

/-!
# The containment skeleton

Project, folder and file nodes with their `contains` relationships. Folders on the way to a file
are created when the first file needs them; a folder with an initialiser file is a package.

## Main definitions

* `splitFiles`: which of the given paths are files, and the directories above them.
* `Containment.build`: the skeleton of a list of files.
* `Containment.build?`: the same, refusing rooted paths, which have no outermost folder, and paths
  that are nested too deep.
-/

namespace CodeGraph

/-- The directories above some of the paths. -/
def directoriesAbove (paths : List String) : List String :=
  paths.flatMap Path.ancestors

/-- The distinct paths that are not directories of others, and those directories. -/
def splitFiles (paths : List String) : List String × List String :=
  let unique := Text.distinct (paths.filter (· ≠ ""))
  let directories := directoriesAbove unique
  (unique.filter (· ∉ directories), Text.distinct directories)

/-- The folders on the way to a file, the outermost first. -/
def Path.folders (path : String) : List String :=
  (Path.ancestors path).filter fun d => d ≠ "" && !Text.endsWith "/" d

/-- The file that makes a folder a package. -/
def packageMarker : String := "__init__.py"

/-- The directories that hold a package marker. -/
def packageDirectories (files : List String) : List String :=
  (files.filter fun p => Path.name p = packageMarker).map Path.directory

/-- The skeleton under construction: graph, and identifiers of files and folders by path. -/
structure Containment where
  graph : Graph
  projectId : String
  fileIds : OrderedMap String String := ∅
  folderIds : OrderedMap String String := ∅
deriving DecidableEq, Repr, Inhabited

namespace Containment

/-- Identifier of a file node. -/
def fileId (path : String) : String :=
  Identifier.ofStructure .file path

/-- The node of a folder. -/
def folderNode (packages : List String) (directory : String) : Node :=
  let label := if directory ∈ packages then NodeKind.package else .folder
  { id := Identifier.ofStructure label directory
    label
    properties := ⟨[("name", .text (Path.name directory)),
      ("path", .text directory),
      ("depth", .int (Text.count '/' directory + 1))]⟩ }

/-- The node of a file. -/
def fileNode (path : String) : Node :=
  { id := fileId path
    label := .file
    properties := ⟨[("name", .text (Path.name path)),
      ("path", .text path),
      ("extension", .text (Path.lowerExtension path))]⟩ }

/-- The node of the project. -/
def projectNode (name root : String) : Node :=
  { id := Identifier.ofStructure .project name
    label := .project
    properties := ⟨[("name", .text name), ("path", .text root)]⟩ }

/-- Make sure that a folder has a node below its parent; the folder's identifier comes second. -/
def addFolder (packages : List String) (state : Containment × String) (directory : String) :
    Containment × String :=
  let (c, parentId) := state
  match c.folderIds.get? directory with
  | some id => (c, id)
  | none =>
    let n := folderNode packages directory
    let graph := (c.graph.insertNode n).insertRelationship (.between .contains parentId n.id)
    ({ c with graph, folderIds := c.folderIds.insert directory n.id }, n.id)

/-- Add a file below its folders. -/
def addFile (packages : List String) (c : Containment) (path : String) : Containment :=
  let (c, parentId) := (Path.folders path).foldl (addFolder packages) (c, c.projectId)
  let n := fileNode path
  let graph := (c.graph.insertNode n).insertRelationship (.between .contains parentId n.id)
  { c with graph, fileIds := c.fileIds.insert path n.id }

/-- The skeleton of a list of files. -/
def build (name root : String) (files : List String) : Containment :=
  let project := projectNode name root
  files.foldl (addFile (packageDirectories files))
    { graph := Graph.empty.insertNode project, projectId := project.id }

/--
How many folders one file may be the first to need. Each of them takes a frame of the stack, so this
is the interpreter's limit on recursion, 1000, less the frames in use where a file is added.
-/
def maxNewFolders : Nat := 987

/-- Whether a file can be added: it is not rooted, and does not need too many new folders. -/
def admits (c : Containment) (path : String) : Bool :=
  let missing := (Path.folders path).filter fun d => !c.folderIds.contains d
  !Text.startsWith "/" path && missing.length ≤ maxNewFolders

/-- The skeleton of a list of files, if each of them can be added. -/
def build? (name root : String) (files : List String) : Option Containment :=
  let project := projectNode name root
  let packages := packageDirectories files
  files.foldlM
    (fun (c : Containment) path => if c.admits path then some (c.addFile packages path) else none)
    { graph := Graph.empty.insertNode project, projectId := project.id }

end Containment

end CodeGraph
