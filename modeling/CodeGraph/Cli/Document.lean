import CodeGraph.Cli
import CodeGraph.Text.Base64

/-!
# Snapshot documents

A snapshot with the syntax trees of its sources as one JSON document: `files` lists paths with their
texts, or with their bytes in base 64, `dirs` further directories, and `trees` the syntax trees.

## Main definitions

* `World.ofJson`: the world of a document.
-/

namespace CodeGraph.Cli

/-- The bytes of a file. -/
def bytesOfJson : Json → ByteArray
  | .text s => s.toUTF8
  | v => ((v.field? "base64").map fun b => Base64.decode b.asText).getD ByteArray.empty

/-- A path with its bytes. -/
def fileOfJson? : Json → Option (String × ByteArray)
  | .list [path, content] => some (Path.collapse path.asText, bytesOfJson content)
  | _ => none

/-- The items of a field that is a list. -/
def listField (v : Json) (name : String) : List Json :=
  match v.field? name with
  | some (.list items) => items
  | _ => []

/-- The world of a document. -/
def World.ofJson (cwd : String) (v : Json) : World where
  snapshot :=
    { cwd
      files := .ofList ((listField v "files").filterMap fileOfJson?)
      directories := (listField v "dirs").map fun d => Path.collapse d.asText }
  forest := ((v.field? "trees").map Forest.ofJson).getD {}

end CodeGraph.Cli
