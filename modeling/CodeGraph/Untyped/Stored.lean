import CodeGraph.Cache
import CodeGraph.Graph
import CodeGraph.Registry
import CodeGraph.Untyped.Functions
import CodeGraph.Untyped.Recency

/-!
# Graphs, registries and caches with untyped arguments

## Main definitions

* `Untyped.updateNode`: change of a node's properties.
* `Untyped.registryLookup`: look-up of definitions and files by name.
* `Untyped.cacheOf`, `Untyped.stub`, `Untyped.relieve`: the parse cache.
-/

namespace CodeGraph.Untyped

/-! ### Graphs -/

/-- Why a change of a node's properties is refused. -/
inductive UpdateError where
  | refused (refusal : Refusal)
  | store (error : StoreError)

/-- Names that no property passed along with a node's identifier may have. -/
def reservedNames : List String :=
  ["self", "node_id"]

/-- Merge properties into a node. -/
def updateNode (s : Store) (id props : Json) : Except UpdateError Store :=
  match props with
  | .object raw =>
    if raw.any fun f => f.1 ∈ reservedNames then .error (.refused .wrongKind)
    else if s.frozen then .error (.store .frozen)
    else match Key.ofJson id with
      | .error refusal => .error (.refused refusal)
      | .ok (.text id) =>
        match s.updateProperties id raw with
        | .ok s => .ok s
        | .error e => .error (.store e)
      | .ok _ => .error (.store (.unknownNode id.display))
  | _ => .error (.refused .wrongKind)

/-! ### Registries -/

/-- What a look-up in a registry finds. -/
inductive Found where
  | definitions (ds : List Definition)
  | files (paths : List String)
  | bool (b : Bool)

/-- A look-up in a registry by name; an unknown one finds nothing. -/
def registryLookup (r : Registry) (name : String) (arguments : List Json) :
    Option (Answer Found) :=
  match name, arguments with
  | "qualified", [n] => some ((text .noOperation n).map fun n => .definitions (r.qualified n))
  | "qualified", [n, whole] => some ((text .noOperation n).map fun n =>
      .definitions (if whole.truthy then r.below n else r.qualified n))
  | "ending_with", [n] => some ((text .noOperation n).map fun n => .definitions (r.endingWith n))
  | "name", [n] => some (lookup (fun n => .definitions (r.named n)) (.definitions []) n)
  | "name_in_file", [path, .text n] =>
    some (lookup (fun path => .definitions (r.namedIn path n)) (.definitions []) path)
  | "name_in_file", [path, _] => some (lookup (fun _ => .definitions []) (.definitions []) path)
  | "in_file", [path] => some (lookup (fun p => .definitions (r.inFile p)) (.definitions []) path)
  | "suffix", [s] => some ((text .noOperation s).map fun s => .files (r.filesEndingWith s))
  | "stem", [s] => some (lookup (fun s => .files (r.filesWithStem s)) (.files []) s)
  | "has_file", [path] => some (lookup (fun p => .bool (r.hasFile p)) (.bool false) path)
  | _, _ => none

/-! ### Caches -/

/-- The options of a cache. -/
def cacheOptions : List String :=
  ["max_entries", "max_bytes", "query_max_entries", "grammar_max_entries", "verify_integrity"]

/-- A whole number that a count is compared with. -/
def wholeBound (v : Option Json) (default : Int) : Answer Int :=
  match v.map Bound.ofJson with
  | none => .ok default
  | some (.atMost n) => .ok n
  | some _ => .error .wrongKind

/-- The low-water mark of a budget. -/
def lowWaterOf (budget : Json) (limit : Int) : Option Int :=
  match budget with
  | .float d => d.threeQuarters.truncate?
  | _ => Double.threeQuarters? limit

/-- The empty cache that options ask for. -/
def cacheOf (options : List (String × Json)) : Answer Cache := do
  if options.any fun o => o.1 ∉ cacheOptions then throw .wrongKind
  let maxEntries ← wholeBound (options.lookup "max_entries") 200
  let maxQueries ← wholeBound (options.lookup "query_max_entries") 1000
  let maxGrammars ← wholeBound (options.lookup "grammar_max_entries") 10
  let verify := ((options.lookup "verify_integrity").map Json.truthy).getD false
  match options.lookup "max_bytes" with
  | some .null =>
    let c := Cache.empty maxEntries 0 maxQueries maxGrammars verify
    return { c with files := { c.files with region := { maxEntries } } }
  | budget =>
    let maxBytes ← wholeBound budget 104857600
    let c := Cache.empty maxEntries maxBytes maxQueries maxGrammars verify
    return { c with files := { c.files with lowWater := lowWaterOf (budget.getD .null) maxBytes } }

/-- Relieve memory pressure; a cache without a budget has none to relieve. -/
def relieve (c : Cache) : Answer (Cache × Nat) :=
  if c.files.region.maxBytes.isNone then .error .wrongKind
  else match c.relieve? with
    | some r => .ok r
    | none => .error .outOfRange

/-- A parse result without definitions, with some of its fields given. -/
def stub (source : Cache.Source) (content : String) (given : List (String × Json)) :
    Answer ParsedFile :=
  let field := fun name default => (given.lookup name).getD default
  let fields := [
    ("file_path", field "parsed_path" (.text source.path)),
    ("language", field "language" (.text "python")),
    ("content_hash", field "parsed_hash" (.text source.contentHash)),
    ("file_size", field "size" (.int (Text.length content)))]
  match ParsedFile.read (.object fields) with
  | .ok f => .ok f
  | .failed issues => .error (.invalid issues)

end CodeGraph.Untyped
