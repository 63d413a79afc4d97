import CodeGraph.Cli.Snapshot

/-!
# Where paths lead

A path is followed step by step through directories that are there. What lies below the working
directory is known; of the rest of the file system only the usual directories and the null device
are.

## Main definitions

* `Location`: a place in the file system.
* `Snapshot.follow`: the place that a path leads to.
* `Snapshot.writable`: the place of a file that may be written.
-/

namespace CodeGraph.Cli

/-- The directory that a place is counted from. -/
inductive Base where
  | working
  /-- So many levels above the working directory, at least one. -/
  | above (levels : Nat)
  | top
deriving DecidableEq, Repr, Inhabited

/-- A place: the names on the way from its base. -/
structure Location where
  base : Base
  names : List String := []
deriving DecidableEq, Repr, Inhabited

/-- Why a path leads nowhere. -/
inductive PathFault where
  /-- A directory on the way is not there. -/
  | noDirectory
  /-- A file stands on the way. -/
  | notDirectory
  /-- The path leads to a directory. -/
  | isDirectory
  /-- A name or the whole path is too long. -/
  | tooLong
  /-- The path holds a code point that ends texts. -/
  | terminated
deriving DecidableEq, Repr, Inhabited

/-- The usual directories at the top of the file system. -/
def hostDirectories : List String :=
  ["bin", "boot", "dev", "etc", "home", "lib", "media", "mnt", "opt", "proc", "root", "run", "sbin",
   "srv", "sys", "tmp", "usr", "var"]

/-- The null device, an empty file. -/
def nullDevice : Location :=
  ⟨.top, ["dev", "null"]⟩

/-- Most bytes of a name. -/
def maxNameBytes : Nat := 255

/-- Most bytes of a path. -/
def maxPathBytes : Nat := 4095

/-- The directory that holds a place; the top holds itself. -/
def Location.parent (l : Location) : Location :=
  match l.base, l.names with
  | .working, [] => ⟨.above 1, []⟩
  | .above n, [] => ⟨.above (n + 1), []⟩
  | .top, [] => l
  | base, names => ⟨base, names.dropLast⟩

/-- A place as a path from the working directory, or from the top. -/
def Location.path (l : Location) : String :=
  let names := Text.join "/" l.names
  match l.base with
  | .working => names
  | .above n => Text.join "" (List.replicate n "../") ++ names
  | .top => "/" ++ names

namespace Snapshot

variable (s : Snapshot)

/-- The bytes of the file at a place. -/
def bytesAt? (l : Location) : Option ByteArray :=
  if l = nullDevice then some ByteArray.empty
  else if l.base = .working then s.files.get? l.path
  else none

/-- Whether a place is a directory. -/
def holdsDirectory (l : Location) : Bool :=
  match l.base, l.names with
  | .working, _ => s.isDirectoryAt l.path
  | .above _, names => names.isEmpty
  | .top, [] => true
  | .top, [name] => name ∈ hostDirectories
  | .top, _ => false

/-- One step from a place. -/
def follow1 (l : Location) (name : String) : Except PathFault Location :=
  if s.holdsDirectory l then
    if name = ".." then .ok l.parent
    else if maxNameBytes < Utf8.size name then .error .tooLong
    else .ok { l with names := l.names ++ [name] }
  else if (s.bytesAt? l).isSome then .error .notDirectory
  else .error .noDirectory

/-- The place that a path starts at. -/
def start (path : String) : Location :=
  ⟨if Text.startsWith "/" path && s.cwd ≠ "/" then .top else .working, []⟩

/-- The names that a path goes through. -/
def steps (path : String) : List String :=
  (Text.segments '/' path).filter (· ≠ ".")

/-- The place that a path leads to; what its last name stands for need not be there. -/
def follow (path : String) : Except PathFault Location :=
  if path.toList.contains (Char.ofNat 0) then .error .terminated
  else if maxPathBytes < Utf8.size path then .error .tooLong
  else (steps path).foldlM s.follow1 (s.start path)

/-- The place of a file that may be written. -/
def writable (path : String) : Except PathFault Location := do
  let l ← s.follow path
  if s.holdsDirectory l then throw .isDirectory else return l

end Snapshot

end CodeGraph.Cli
