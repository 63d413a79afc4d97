/-!
# Star patterns

A pattern in which `*` stands for any text, the empty one included, and every other code point
for itself.
-/

namespace CodeGraph.Text.Glob

/-- Whether a list of code points has the shape of a star pattern. -/
def matchesChars : List Char → List Char → Bool
  | [], s => s.isEmpty
  | '*' :: ps, [] => matchesChars ps []
  | '*' :: ps, c :: cs => matchesChars ps (c :: cs) || matchesChars ('*' :: ps) cs
  | _ :: _, [] => false
  | p :: ps, c :: cs => p == c && matchesChars ps cs
termination_by p s => p.length + s.length

/-- Whether a text has the shape of a star pattern. -/
def matchesText (pattern s : String) : Bool :=
  matchesChars pattern.toList s.toList

end CodeGraph.Text.Glob
