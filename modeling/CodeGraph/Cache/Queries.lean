import CodeGraph.Cache.Region
import CodeGraph.Language.Queries

/-!
# Cached grammars and queries

Loaded grammars, and the compiled queries that they share. A grammar remembers the queries that it
failed to compile and does not try them again.

## Main definitions

* `Cache.Grammar`: a loaded language.
* `Cache.Queries.grammar`: look-up of a grammar.
* `Cache.Queries.compile`: look-up of a compiled query.
-/

namespace CodeGraph.Cache

/-- A loaded language with the queries that it failed to compile. -/
structure Grammar where
  language : Language
  failed : List QueryName := []
deriving DecidableEq, Repr, Inhabited

/-- Why a query cannot be used. -/
inductive QueryFault where
  | unknown
  | broken
deriving DecidableEq, Repr, Inhabited

/-- The wording of a fault. -/
def QueryFault.reason : QueryFault → String
  | unknown => unknownQuery
  | broken => compileFailure

/-- The grammars and compiled queries in use. -/
structure Queries where
  /-- Compiled queries; only whether one is there matters. -/
  compiled : Region (Language × QueryName) Unit
  grammars : Region String Grammar
  /-- Whether compiled queries are kept at all. -/
  enabled : Bool := true

namespace Queries

/-- Nothing loaded yet, within bounds on queries and grammars. -/
def empty (maxQueries maxGrammars : Int) : Queries where
  compiled := { maxEntries := max maxQueries 1 }
  grammars := { maxEntries := maxGrammars }
  enabled := 0 < maxQueries

/-- The grammar of a language, loaded if necessary; an unknown language has none. -/
def grammar (c : Queries) (language : String) : Option Grammar × Queries :=
  let (found, grammars) := c.grammars.get language
  match found with
  | some g => (some g, { c with grammars })
  | none =>
    match Language.ofName? language with
    | none => (none, { c with grammars })
    | some l => (some { language := l }, { c with grammars := grammars.put language { language := l } })

/-- Remember that a grammar failed to compile a query. -/
def markFailed (c : Queries) (l : Language) (q : QueryName) : Queries :=
  { c with grammars := c.grammars.modify l.name fun g => { g with failed := g.failed ++ [q] } }

/-- The queries that the loaded grammar of a language failed to compile. -/
def failedOf (c : Queries) (l : Language) : List QueryName :=
  ((c.grammars.peek? l.name).map Grammar.failed).getD []

/-- Keep a compiled query. -/
def keep (c : Queries) (l : Language) (q : QueryName) : Queries :=
  if c.enabled then { c with compiled := c.compiled.put (l, q) () } else c

/-- Look a compiled query up. -/
def find (c : Queries) (l : Language) (q : QueryName) : Bool × Queries :=
  if c.enabled then
    let (found, compiled) := c.compiled.get (l, q)
    (found.isSome, { c with compiled })
  else (false, c)

/-- A compiled query of a loaded language: found, or compiled and kept. -/
def compile (c : Queries) (broken : List BrokenQuery) (l : Language) (q : QueryName) :
    Except QueryFault Unit × Queries :=
  if q ∉ l.queryNames then (.error .unknown, c)
  else if q ∈ c.failedOf l then (.error .broken, c)
  else
    let (found, c) := c.find l q
    if found then (.ok (), c)
    else if l.compiles broken q then (.ok (), c.keep l q)
    else (.error .broken, c.markFailed l q)

/-- Look up all queries of a language in the order in which they run. -/
def compileAll (c : Queries) (broken : List BrokenQuery) (l : Language) : Queries :=
  l.queryOrder.foldl (fun c q => (c.compile broken l q).2) c

end Queries

end CodeGraph.Cache
