import CodeGraph.Definition
import CodeGraph.Number.Count
import CodeGraph.Text.Utf8

/-!
# Lines of a text

Line numbers, counted from one, with the byte spans of the lines, and definitions that stand for
one line.
-/

namespace CodeGraph.Manifest

/-- A text cut at its line feeds. -/
structure Lines where
  lines : List String

/-- The lines of a text. -/
def Lines.ofText (content : String) : Lines :=
  ⟨Text.split '\n' content⟩

/-- The line with a number, the nearest one for a number out of range. -/
def Lines.index (ls : Lines) (number : Nat) : Nat :=
  min (number - 1) (ls.lines.length - 1)

/-- First byte of a line and the byte after its last one. -/
def Lines.span (ls : Lines) (number : Nat) : Nat × Nat :=
  let i := ls.index number
  let start := Count.total ((ls.lines.take i).map fun l => Utf8.size l + 1)
  (start, start + Utf8.size (ls.lines.getD i ""))

/-- Number of the first line from a number on that holds a text, and one if there is none. -/
def Lines.find (ls : Lines) (needle : String) (start : Nat) : Nat :=
  match (ls.lines.drop (start - 1)).findIdx? (Text.contains needle) with
  | some i => i + start
  | none => 1

/-- The lines with their numbers. -/
def Lines.numbered (ls : Lines) : List (Nat × String) :=
  ls.lines.zipIdx.map fun (l, i) => (i + 1, l)

/-- A definition that stands for one line. -/
def Lines.define (ls : Lines) (path name : String) (kind : DefinitionKind) (line : Nat) :
    Definition :=
  let (start, stop) := ls.span line
  Definition.identified {
    nodeId := ""
    qualifiedName := qualifiedName path name none
    filePath := path
    name
    kind
    startLine := line
    endLine := line
    startByte := start
    endByte := stop
    language := "config" }

end CodeGraph.Manifest
