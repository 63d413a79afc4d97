import CodeGraph.Json.Basic
import CodeGraph.Language.Queries

/-!
# Availability of languages

For each language, how many of its queries compile and which do not.
-/

namespace CodeGraph

/-- What is available of a language. -/
structure Availability where
  language : Language
  failed : List QueryName
deriving DecidableEq, Repr, Inhabited

namespace Availability

/-- Number of queries that compile. -/
def queries (a : Availability) : Nat :=
  a.language.queryNames.length - a.failed.length

/-- What is available of each language, in order of their names. -/
def all (broken : List BrokenQuery) : List Availability :=
  Language.all.map fun l => ⟨l, l.failedQueries broken⟩

/-- Availability as a field of a JSON object. -/
def field (a : Availability) : String × Json :=
  (a.language.name, .object [
    ("available", .bool true),
    ("queries", .int a.queries),
    ("failed", .list (a.failed.map fun q => .text q.name)),
    ("error", .null)])

/-- The availability of all languages as JSON. -/
def allToJson (broken : List BrokenQuery) : Json :=
  .object ((all broken).map field)

end Availability

end CodeGraph
