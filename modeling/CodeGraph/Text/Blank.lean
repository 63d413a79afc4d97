import CodeGraph.Text.Basic

/-!
# Blank code points

White space in the wide sense: the ASCII controls from tab to carriage return and from file to
unit separator, and the spaces and line separators of Unicode.
-/

namespace CodeGraph.Text

/-- The blank code points, as closed ranges in increasing order. -/
def blankRanges : List (Nat × Nat) :=
  [(0x09, 0x0D), (0x1C, 0x1F), (0x20, 0x20), (0x85, 0x85), (0xA0, 0xA0), (0x1680, 0x1680),
   (0x2000, 0x200A), (0x2028, 0x2029), (0x202F, 0x202F), (0x205F, 0x205F), (0x3000, 0x3000)]

/-- Whether a code point is blank. -/
def isBlank (c : Char) : Bool :=
  blankRanges.any fun (lo, hi) => lo ≤ c.toNat && c.toNat ≤ hi

/-- The text without blank code points at either end. -/
def trim (s : String) : String :=
  trimWhile isBlank s

/-- Whether a text holds nothing but blank code points. -/
def allBlank (s : String) : Bool :=
  s.toList.all isBlank

/-- The parts of a comma separated list, trimmed, without the blank ones. -/
def commaSeparated (s : String) : List String :=
  ((split ',' s).map trim).filter (· ≠ "")

end CodeGraph.Text
