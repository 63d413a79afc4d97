import CodeGraph.Reading

/-!
# Settings

The tunable policy of an ingestion engine, with its defaults.

## Main definitions

* `Settings`, `Settings.read`: the policy.
-/

namespace CodeGraph

/-- Marks of generated bundles. -/
def defaultBundlerSignatures : List String :=
  ["__webpack_require__", "webpackBootstrap", "/*! For license information", "System.register(",
   "parcelRequire"]

/-- Directory names of dependencies, builds, tools and caches. -/
def defaultIgnorePatterns : List String :=
  [".git", ".svn", ".hg", "node_modules", "bower_components", "jspm_packages", "vendor", "deps",
   "venv", "env", ".venv", ".env", "envs", "virtualenv", "__pycache__", ".pytest_cache",
   ".mypy_cache", ".tox", "build", "dist", "out", "target", "bin", "obj", ".gradle", "_build",
   ".vs", ".vscode", ".idea", ".eclipse", ".settings", "tmp", ".tmp", "temp", "logs", "log",
   "coverage", ".coverage", "htmlcov", ".nyc_output", "_site", ".docusaurus", ".cache",
   ".parcel-cache", ".next", ".nuxt"]

/-- File names of lock files and file managers. -/
def defaultIgnoredFileNames : List String :=
  ["package-lock.json", "yarn.lock", "pnpm-lock.yaml", "poetry.lock", "pipfile.lock", "cargo.lock",
   "composer.lock", "gemfile.lock", ".ds_store", "thumbs.db"]

/-- Extensions of binary and derived files. -/
def defaultIgnoredExtensions : List String :=
  [".png", ".jpg", ".jpeg", ".gif", ".bmp", ".ico", ".svg", ".webp", ".pdf", ".zip", ".tar", ".gz",
   ".tgz", ".bz2", ".7z", ".rar", ".jar", ".war", ".class", ".pyc", ".pyo", ".so", ".dll",
   ".dylib", ".exe", ".o", ".a", ".lib", ".bin", ".woff", ".woff2", ".ttf", ".eot", ".mp3", ".mp4",
   ".wav", ".avi", ".mov", ".lock", ".map", ".min.js"]

/-- Extensions of source files per language. -/
def defaultLanguageExtensions : OrderedMap String (List String) :=
  ⟨[("python", [".py", ".pyi"]),
    ("javascript", [".js", ".mjs", ".cjs", ".jsx"]),
    ("typescript", [".ts", ".mts", ".cts"]),
    ("tsx", [".tsx"]),
    ("java", [".java"])]⟩

/-- The policy of an ingestion engine. -/
structure Settings where
  batchSize : Nat := 10
  maxWorkers : Nat := 1
  parseTimeout : Option Double := some (.ofInt 10)
  cacheMaxEntries : Int := 200
  cacheMaxBytes : Int := 104857600
  queryCacheMaxEntries : Int := 1000
  grammarCacheMaxEntries : Int := 10
  verifyCacheIntegrity : Bool := false
  maxFileSize : Int := 500000
  maxFirstLineLength : Int := 1000
  bundlerSignatures : List String := defaultBundlerSignatures
  ignorePatterns : List String := defaultIgnorePatterns
  ignoredFileNames : List String := defaultIgnoredFileNames
  ignoredExtensions : List String := defaultIgnoredExtensions
  languageExtensions : OrderedMap String (List String) := defaultLanguageExtensions
  extraBuiltins : OrderedMap String (List String) := ∅
  maxReexportDepth : Nat := 5
deriving DecidableEq, Repr, Inhabited

/-- Read settings with a reading of the time limit; every field has a default. -/
def Settings.readWith (limit : Reading Double) : Reading Settings := Reading.record fun fs =>
  let d : Settings := {}
  let texts := Reading.list Reading.text
  Settings.mk
    <$> Reading.withDefault fs "batch_size" (Reading.natAtLeast 1) d.batchSize
    <*> Reading.withDefault fs "max_workers" (Reading.natAtLeast 1) d.maxWorkers
    <*> Reading.withDefault fs "parse_timeout_seconds" (Reading.nullable limit)
      d.parseTimeout
    <*> Reading.withDefault fs "cache_max_entries" (Reading.intAtLeast 1) d.cacheMaxEntries
    <*> Reading.withDefault fs "cache_max_bytes" Reading.int d.cacheMaxBytes
    <*> Reading.withDefault fs "query_cache_max_entries" (Reading.intAtLeast 0)
      d.queryCacheMaxEntries
    <*> Reading.withDefault fs "grammar_cache_max_entries" (Reading.intAtLeast 1)
      d.grammarCacheMaxEntries
    <*> Reading.withDefault fs "verify_cache_integrity" Reading.bool d.verifyCacheIntegrity
    <*> Reading.withDefault fs "max_file_size" Reading.int d.maxFileSize
    <*> Reading.withDefault fs "max_first_line_length" Reading.int d.maxFirstLineLength
    <*> Reading.withDefault fs "bundler_signatures" texts d.bundlerSignatures
    <*> Reading.withDefault fs "ignore_patterns" texts d.ignorePatterns
    <*> Reading.withDefault fs "ignored_file_names" texts d.ignoredFileNames
    <*> Reading.withDefault fs "ignored_extensions" texts d.ignoredExtensions
    <*> Reading.withDefault fs "language_extensions" (Reading.dict texts) d.languageExtensions
    <*> Reading.withDefault fs "extra_builtins" (Reading.dict texts) d.extraBuiltins
    <*> Reading.withDefault fs "max_reexport_depth" (Reading.natAtLeast 0) d.maxReexportDepth

/-- Read settings. -/
def Settings.read : Reading Settings :=
  Settings.readWith Reading.float

/-- A list of texts as JSON. -/
def textsToJson (xs : List String) : Json :=
  .list (xs.map .text)

/-- Lists of texts by name as JSON. -/
def textListsToJson (m : OrderedMap String (List String)) : Json :=
  .object (m.toList.map fun (k, xs) => (k, textsToJson xs))

/-- Settings as JSON. -/
def Settings.toJson (s : Settings) : Json :=
  .object [
    ("batch_size", .int s.batchSize),
    ("max_workers", .int s.maxWorkers),
    ("parse_timeout_seconds", (s.parseTimeout.map .float).getD .null),
    ("cache_max_entries", .int s.cacheMaxEntries),
    ("cache_max_bytes", .int s.cacheMaxBytes),
    ("query_cache_max_entries", .int s.queryCacheMaxEntries),
    ("grammar_cache_max_entries", .int s.grammarCacheMaxEntries),
    ("verify_cache_integrity", .bool s.verifyCacheIntegrity),
    ("max_file_size", .int s.maxFileSize),
    ("max_first_line_length", .int s.maxFirstLineLength),
    ("bundler_signatures", textsToJson s.bundlerSignatures),
    ("ignore_patterns", textsToJson s.ignorePatterns),
    ("ignored_file_names", textsToJson s.ignoredFileNames),
    ("ignored_extensions", textsToJson s.ignoredExtensions),
    ("language_extensions", textListsToJson s.languageExtensions),
    ("extra_builtins", textListsToJson s.extraBuiltins),
    ("max_reexport_depth", .int s.maxReexportDepth)]

end CodeGraph
