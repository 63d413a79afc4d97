import CodeGraph.Tree.Basic

/-!
# Patterns of syntax trees

A pattern describes a named node by its kind and by patterns for some of its children, in order but
not necessarily next to each other. Nodes of interest are captured under names. Each way to assign
the child patterns is one match.

## Main definitions

* `Pattern`: the patterns.
* `Pattern.fits`: the matches of a pattern at a node.
* `Query`, `Query.run`: several patterns with a condition on captured text, and their matches.
-/

namespace CodeGraph

/-- A pattern for a named node. -/
inductive Pattern where
  | mk (kind : Option String) (field : Option String) (optional : Bool) (capture : Option String)
      (children : List Pattern)
deriving Inhabited

namespace Pattern

/-- A node of a kind, with patterns for some of its children. -/
def node (kind : String) (children : List Pattern := []) : Pattern :=
  mk (some kind) none false none children

/-- Any named node. -/
def any : Pattern :=
  mk none none false none []

/-- The pattern for a child in a field. -/
def inField (field : String) : Pattern → Pattern
  | mk kind _ optional capture children => mk kind (some field) optional capture children

/-- The pattern with its node captured under a name. -/
def captured (name : String) : Pattern → Pattern
  | mk kind field optional _ children => mk kind field optional (some name) children

/-- The pattern for a child that may be missing. -/
def ifPresent : Pattern → Pattern
  | mk kind field _ capture children => mk kind field true capture children

end Pattern

/-- Captures of a match with the last node that it touches. -/
structure Fit where
  last : Nat
  captures : List (String × Nat) := []
deriving DecidableEq, Repr, Inhabited

/-- Both fits together. -/
def Fit.merge (a b : Fit) : Fit where
  last := max a.last b.last
  captures := a.captures ++ b.captures

/-- A matcher of one child: whether the child may be missing, and its fits at a node. -/
structure ChildMatcher where
  optional : Bool
  fits : Nat → List Fit

/-- The fits of one matcher at the first child, joined with fits of the rest. -/
def joinFits (heads rest : List Fit) : List Fit :=
  heads.flatMap fun h => rest.map h.merge

/-- The non-empty tails of a list, longest first. -/
def tails : List Nat → List (Nat × List Nat)
  | [] => []
  | c :: cs => (c, cs) :: tails cs

/--
All ways to assign matchers to children, in order. An optional matcher takes the first child that
fits, and none if no child does.
-/
def assign : List ChildMatcher → List Nat → List Fit
  | [], _ => [{ last := 0 }]
  | m :: ms, cs =>
    if m.optional then
      match cs.dropWhile fun c => (m.fits c).isEmpty with
      | c :: rest => joinFits (m.fits c) (assign ms rest)
      | [] => assign ms cs
    else (tails cs).flatMap fun (c, rest) => joinFits (m.fits c) (assign ms rest)

namespace Pattern

mutual

/-- The fits of a pattern at a node. -/
def fits (t : SyntaxTree) : Pattern → Nat → List Fit
  | mk kind field _ capture children => fun i =>
    let n := t.node i
    if n.named && (kind.isNone || kind = some n.kind) && (field.isNone || field = n.field) then
      let own : Fit := ⟨i, (capture.map fun name => (name, i)).toList⟩
      (assign (matchers t children) n.children).map own.merge
    else []

/-- The matchers of child patterns. -/
def matchers (t : SyntaxTree) : List Pattern → List ChildMatcher
  | [] => []
  | mk kind field optional capture children :: rest =>
    ⟨optional, fits t (mk kind field optional capture children)⟩ :: matchers t rest

end

end Pattern

/-- Patterns that are searched together, with a text that a capture has to have. -/
structure Query where
  patterns : List Pattern
  condition : Option (String × String) := none
deriving Inhabited

/-- A match: the node of the pattern, the last node touched, and the captures. -/
structure Match where
  position : Nat
  root : Nat
  last : Nat
  captures : List (String × Nat)
deriving DecidableEq, Repr, Inhabited

namespace Match

/-- The first node captured under a name. -/
def node? (m : Match) (name : String) : Option Nat :=
  m.captures.lookup name

/-- The order in which matches are found: by last node, then by root, then by pattern. -/
def le (a b : Match) : Bool :=
  a.last < b.last || (a.last = b.last &&
    (a.root < b.root || (a.root = b.root && a.position ≤ b.position)))

end Match

namespace Query

/-- Whether the text condition of a query holds for a match. -/
def holds (q : Query) (src : SourceTree) (m : Match) : Bool :=
  match q.condition with
  | none => true
  | some (name, text) =>
    m.captures.all fun (n, i) => n ≠ name || src.rawText i = text

/-- All matches of a query, in the order in which a walk through the tree completes them. -/
def run (q : Query) (src : SourceTree) : List Match :=
  let found := q.patterns.zipIdx.flatMap fun (p, position) =>
    (List.range src.tree.nodes.size).flatMap fun i =>
      (p.fits src.tree i).map fun f => ⟨position, i, f.last, f.captures⟩
  Sorting.sort Match.le (found.filter (q.holds src))

end Query

end CodeGraph
