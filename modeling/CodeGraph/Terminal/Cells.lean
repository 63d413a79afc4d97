import CodeGraph.Terminal.WidthTable
import CodeGraph.Number.Count
import CodeGraph.Text.Blank

/-!
# Cells of a terminal line

A code point takes no cell, one or two. Texts are measured, cut and wrapped in cells.

## Main definitions

* `Terminal.cells`: the number of cells of a text.
* `Terminal.measure`: the width that a text asks for.
* `Terminal.wrap`: the lines of a text within a width.
-/

namespace CodeGraph.Terminal

/-- Whether a number lies in one of some closed ranges. -/
def inRanges (ranges : List (Nat × Nat)) (n : Nat) : Bool :=
  ranges.any fun (lo, hi) => lo ≤ n && n ≤ hi

/-- The number of cells of a code point. -/
def cellWidth (c : Char) : Nat :=
  if 32 ≤ c.toNat && c.toNat < 127 then 1
  else if inRanges zeroWidthRanges c.toNat then 0
  else if inRanges doubleWidthRanges c.toNat then 2
  else 1

/-- The number of cells of a text. -/
def cells (cs : List Char) : Nat :=
  Count.total (cs.map cellWidth)

/-- The code points that end a line when a text is measured. -/
def isLineEnd (c : Char) : Bool :=
  c.toNat ∈ [0x0A, 0x0B, 0x0C, 0x0D, 0x1C, 0x1D, 0x1E, 0x85, 0x2028, 0x2029]

/-- The width of the widest of some lines. -/
def widest (widths : List Nat) : Nat :=
  widths.foldl max 0

/-- The width that a text asks for: that of its widest line. -/
def measure (s : String) : Nat :=
  let marked := s.toList.map fun c => if isLineEnd c then '\n' else c
  widest ((marked.splitOn '\n').map cells)

/-- Distance of tab stops. -/
def tabSize : Nat := 8

/-- A line with blanks up to the next tab stop in place of tabs; `column` is where it starts. -/
def expandTabs (column : Nat) : List Char → List Char
  | [] => []
  | c :: cs =>
    if c = '\t' then
      let blanks := tabSize - column % tabSize
      List.replicate blanks ' ' ++ expandTabs (column + blanks) cs
    else c :: expandTabs (column + cellWidth c) cs

/-! ### Cutting -/

/-- The code points of the tables' first columns, which take one cell each. -/
def isSimple (c : Char) : Bool :=
  (0x20 ≤ c.toNat && c.toNat ≤ 0x6F) || c.toNat = 0xA0 || c.toNat = 0x2FF
    || (0x370 ≤ c.toNat && c.toNat ≤ 0x482)

/--
A start of a text that takes `total` cells, searched for by halving between `low` and `high`. If a
wide code point sticks out by one cell, a blank stands in its place.
-/
def searchStart (cs : List Char) (total : Nat) : (fuel low high : Nat) → List Char
  | 0, low, _ => cs.take (low + 1)
  | fuel + 1, low, high =>
    let middle := (low + high) / 2
    let start := cs.take (middle + 1)
    let width := cells start
    if width = total + 1 && (start.getLast?.map cellWidth) = some 2 then start.dropLast ++ [' ']
    else if width = total then start
    else if total < width then searchStart cs total fuel low middle
    else searchStart cs total fuel middle high

/-- A text that is too wide, cut to some cells. -/
def cut (cs : List Char) (total : Nat) : List Char :=
  if cs.all isSimple then cs.take total
  else if total = 0 then []
  else searchStart cs total (2 * cs.length + 2) 0 cs.length

/-- A text cut to a width, with an ellipsis at the end if something is lost. -/
def truncate (width : Nat) (cs : List Char) : List Char :=
  if width < cells cs then cut cs (width - 1) ++ ['…'] else cs

/-! ### Wrapping -/

/-- A word at the front with the blanks around it, and what follows. -/
def splitWord (cs : List Char) : List Char × List Char :=
  let lead := cs.takeWhile Text.isBlank
  let rest := cs.dropWhile Text.isBlank
  let body := rest.takeWhile (!Text.isBlank ·)
  let rest := rest.dropWhile (!Text.isBlank ·)
  (lead ++ body ++ rest.takeWhile Text.isBlank, rest.dropWhile Text.isBlank)

/-- The words of a text, each with the blanks after it; the fuel bounds their number. -/
def wordsOf : (fuel : Nat) → List Char → List (List Char)
  | 0, _ => []
  | fuel + 1, cs =>
    if cs.all Text.isBlank then []
    else
      let (word, rest) := splitWord cs
      word :: wordsOf fuel rest

/-- Without blanks at the end. -/
def withoutTrailing (cs : List Char) : List Char :=
  (cs.reverse.dropWhile Text.isBlank).reverse

/--
Lines of words: `line` is the present one and takes `used` cells. A word that does not fit starts a
new line, unless it would be the first word.
-/
def fill (width : Nat) (line : List Char) (used : Nat) : List (List Char) → List (List Char)
  | [] => [line]
  | word :: words =>
    if used + cells (withoutTrailing word) ≤ width || line.isEmpty then
      fill width (line ++ word) (used + cells word) words
    else line :: fill width word (cells word) words

/-- A line without the blanks at its end by which it is too long. -/
def dropExcess (width : Nat) (line : List Char) : List Char :=
  let blanks := (line.reverse.takeWhile Text.isBlank).length
  line.take (line.length - min blanks (line.length - width))

/-- A line wrapped within a width. -/
def wrapLine (width : Nat) (line : List Char) : List (List Char) :=
  let line := expandTabs 0 line
  let words := wordsOf (line.length + 1) line
  let lines := if words.isEmpty then [line] else fill width [] 0 words
  lines.map fun l => truncate width (dropExcess width l)

/-- The lines of a text within a width. -/
def wrap (width : Nat) (s : String) : List String :=
  ((s.toList.splitOn '\n').flatMap (wrapLine width)).map String.ofList

/-- The lines of a text, however wide. -/
def lines (s : String) : List String :=
  (s.toList.splitOn '\n').map fun line => String.ofList (expandTabs 0 line)

end CodeGraph.Terminal
