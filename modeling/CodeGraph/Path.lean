import CodeGraph.Text.Basic
import CodeGraph.Text.Case

/-!
# Slash separated paths

Parts of a path, joining, and the two normal forms in use: `Path.normalize` for the paths of an
ingestion request, `Path.collapse` for paths with `.` and `..` steps.

## Main definitions

* `Path.directory`, `Path.name`: the two sides of the last slash.
* `Path.stem`, `Path.extension`: the two sides of the last dot of the name.
* `Path.join`, `Path.collapse`, `Path.normalize`.
-/

namespace CodeGraph.Path

open CodeGraph

/-- The code points up to and including the last slash. -/
def throughLastSlash (cs : List Char) : List Char :=
  (cs.reverse.dropWhile (· ≠ '/')).reverse

/-- Everything before the last slash, without trailing slashes unless it has nothing else. -/
def directory (path : String) : String :=
  let head := throughLastSlash path.toList
  if head.all (· = '/') then String.ofList head
  else String.ofList (head.reverse.dropWhile (· = '/')).reverse

/-- Everything after the last slash. -/
def name (path : String) : String :=
  Text.afterLast '/' path

/--
Length of the extension of a name: the part from its last dot, if something other than dots stands
before it.
-/
def extensionLength (base : List Char) : Nat :=
  let tail := base.reverse.takeWhile (· ≠ '.')
  match base.reverse.dropWhile (· ≠ '.') with
  | [] => 0
  | _ :: front => if front.all (· = '.') then 0 else tail.length + 1

/-- The path without the extension of its name. -/
def stem (path : String) : String :=
  Text.dropEnd (extensionLength (name path).toList) path

/-- The extension of the name, with its dot, or the empty text. -/
def extension (path : String) : String :=
  let base := (name path).toList
  String.ofList (base.drop (base.length - extensionLength base))

/-- The extension in lower case. -/
def lowerExtension (path : String) : String :=
  Text.lower (extension path)

/-- One path step after another; an absolute step starts over. -/
def join (base step : String) : String :=
  if Text.startsWith "/" step then step
  else if base = "" || Text.endsWith "/" base then base ++ step
  else base ++ "/" ++ step

/-- One step of `collapse`: the kept components are in reverse. -/
def collapseStep (rooted : Bool) (kept : List String) (component : String) : List String :=
  if component = "" || component = "." then kept
  else if component ≠ ".." then component :: kept
  else match kept with
    | [] => if rooted then [] else [".."]
    | last :: rest => if last = ".." then ".." :: last :: rest else rest

/--
The path without empty and `.` components and with each `..` component cancelling the one before
it. A leading slash stays, and so do exactly two; nothing left is written as a dot.
-/
def collapse (path : String) : String :=
  let slashes := (path.toList.takeWhile (· = '/')).length
  let lead := if slashes = 2 then "//" else if slashes = 0 then "" else "/"
  let kept := (Text.split '/' path).foldl (collapseStep (slashes ≠ 0)) []
  let result := lead ++ Text.join "/" kept.reverse
  if result = "" then "." else result

/-- Drop leading `./` steps. -/
def dropDotSteps : List Char → List Char
  | '.' :: '/' :: rest => dropDotSteps rest
  | cs => cs

/-- Forward slashes only, no leading `./` steps, and no slash at either end. -/
def normalize (path : String) : String :=
  let slashed := (Text.replaceChar '\\' '/' path).toList
  Text.trimWhile (· = '/') (String.ofList (dropDotSteps slashed))

/-- The directories on the way to a path: its proper leading parts that end before a slash. -/
def ancestors (path : String) : List String :=
  let parts := Text.split '/' path
  (List.range (parts.length - 1)).map fun i => Text.join "/" (parts.take (i + 1))

/-- The trailing parts of a path that start after a slash, from the whole path to its name. -/
def suffixes (path : String) : List String :=
  let parts := Text.split '/' path
  (List.range parts.length).map fun i => Text.join "/" (parts.drop i)

end CodeGraph.Path
