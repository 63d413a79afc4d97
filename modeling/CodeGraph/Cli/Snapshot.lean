import CodeGraph.Path
import CodeGraph.Text.Utf8
import CodeGraph.OrderedMap

/-!
# Snapshots of directories

The files below a working directory, with their bytes. A snapshot is walked as a directory tree is:
the files of a directory come before its subdirectories, each in order of their names.

## Main definitions

* `Snapshot`: files and directories.
* `Snapshot.absolute`, `Snapshot.below?`: paths and their places.
* `Snapshot.walk`: the files below a directory.
* `readText`: the text of a file.
-/

namespace CodeGraph.Cli

/-- The files and directories below a working directory, by relative paths. -/
structure Snapshot where
  /-- The absolute path of the working directory. -/
  cwd : String
  files : OrderedMap String ByteArray := ∅
  directories : List String := []

/-- One line feed for each line break. -/
def unifyLineBreaks : List Char → List Char
  | [] => []
  | '\r' :: '\n' :: cs => '\n' :: unifyLineBreaks cs
  | c :: cs => (if c = '\r' then '\n' else c) :: unifyLineBreaks cs

/-- The text of a file; ill-formed bytes become replacement characters. -/
def readText (bytes : ByteArray) : String :=
  String.ofList (unifyLineBreaks (Utf8.decode bytes).toList)

/-- The text of a file if its bytes are well formed. -/
def readText? (bytes : ByteArray) : Option String :=
  (Utf8.decode? bytes).map fun s => String.ofList (unifyLineBreaks s.toList)

/-- The order of a walk: files before directories, then by name, level by level. -/
def walkLe : List String → List String → Bool
  | [], _ => true
  | _ :: _, [] => false
  | [a], [b] => decide (a ≤ b)
  | [_], _ :: _ :: _ => true
  | _ :: _ :: _, [_] => false
  | a :: x :: xs, b :: y :: ys => if a = b then walkLe (x :: xs) (y :: ys) else decide (a ≤ b)

namespace Snapshot

variable (s : Snapshot)

/-- The absolute path of a path. -/
def absolute (path : String) : String :=
  Path.collapse (Path.join s.cwd path)

/-- The place of an absolute path below the working directory; the latter itself is empty. -/
def below? (absolute : String) : Option String :=
  let base := if Text.endsWith "/" s.cwd then s.cwd else s.cwd ++ "/"
  if absolute = s.cwd then some ""
  else if Text.startsWith base absolute then some (Text.drop (Text.length base) absolute)
  else none

/-- Whether a place is a directory: it is known as one, or something lies below it. -/
def isDirectoryAt (place : String) : Bool :=
  place = "" || place ∈ s.directories
    || (s.files.keys ++ s.directories).any (Text.startsWith (place ++ "/"))

/-- The part of a file's path below a directory's place. -/
def relative? (place path : String) : Option String :=
  if place = "" then some path
  else if Text.startsWith (place ++ "/") path then some (Text.drop (Text.length place + 1) path)
  else none

/-- Whether no directory of a relative path is excluded. -/
def isKept (excluded : List String) (path : String) : Bool :=
  (Text.split '/' path).dropLast.all fun d => Text.lower d ∉ excluded

/-- The files below a directory that no excluded directory holds, in the order of a walk. -/
def walk (place : String) (excluded : List String) : List (String × ByteArray) :=
  let found := s.files.toList.filterMap fun (path, bytes) =>
    (relative? place path).map (·, bytes)
  (found.filter fun f => isKept excluded f.1).mergeSort fun a b =>
    walkLe (Text.split '/' a.1) (Text.split '/' b.1)

end Snapshot

end CodeGraph.Cli
