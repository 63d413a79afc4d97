import CodeGraph.Cache.Files
import CodeGraph.Cache.Queries
import CodeGraph.Ingest.Settings

/-!
# The parse cache

Parse results, compiled queries and grammars, kept from one ingestion to the next.

## Main definitions

* `Cache`, `Cache.ofSettings`: the cache.
* `Cache.relieve?`: release of memory between batches.
* `Cache.counters`: its counters.
-/

namespace CodeGraph

/-- What is kept from one ingestion to the next. -/
structure Cache where
  files : Cache.Files
  queries : Cache.Queries

namespace Cache

/-- An empty cache within bounds. -/
def empty (maxEntries maxBytes maxQueries maxGrammars : Int) (verify : Bool) : Cache where
  files := .empty maxEntries maxBytes verify
  queries := .empty maxQueries maxGrammars

/-- The empty cache that settings ask for. -/
def ofSettings (s : Settings) : Cache :=
  empty s.cacheMaxEntries s.cacheMaxBytes s.queryCacheMaxEntries s.grammarCacheMaxEntries
    s.verifyCacheIntegrity

/--
Above a low-water mark, evict results down to it and forget compiled queries; below it, nothing
changes. How many results went.
-/
def relieveTo (c : Cache) (lowWater : Int) : Cache × Nat :=
  if lowWater < c.files.region.bytes then
    let (files, evicted) := c.files.relieve lowWater
    ({ files, queries := { c.queries with compiled := c.queries.compiled.clear } }, evicted)
  else (c, 0)

/-- Relieve memory pressure; a budget without a low-water mark cannot be kept to. -/
def relieve? (c : Cache) : Option (Cache × Nat) :=
  c.files.lowWater.map c.relieveTo

/-- Forget everything; the counters stay. -/
def clear (c : Cache) : Cache where
  files := { c.files with region := c.files.region.clear }
  queries :=
    { c.queries with
      compiled := c.queries.compiled.clear
      grammars := c.queries.grammars.clear }

/-- The counters of the three regions. -/
structure Counters where
  files : Stats
  queries : Stats
  grammars : Stats
deriving DecidableEq, Repr, Inhabited

/-- The counters of a cache. -/
def counters (c : Cache) : Counters where
  files := c.files.region.stats
  queries := c.queries.compiled.stats
  grammars := c.queries.grammars.stats

/-- Counters as JSON: those of the results, with the others in fields of their own. -/
def Counters.toJson (c : Counters) : Json :=
  .object (c.files.fields ++ [("queries", c.queries.toJson), ("grammars", c.grammars.toJson)])

end Cache

end CodeGraph
