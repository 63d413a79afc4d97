import CodeGraph.Ingest.Request
import CodeGraph.Ingest.Settings
import CodeGraph.Text.Blank
import CodeGraph.Text.Glob

/-!
# Selecting and classifying files

Which files are left out, with the reason, and what the remaining ones are. Exclusion rules are
tried in a fixed order and the first hit counts.

## Main definitions

* `SkipReason`: why a file is not parsed.
* `Category`: source in a language, configuration, or something else.
* `Selection`: the filters and settings in force, in lower case.
* `Selection.exclusion?`, `Selection.classify`, `Selection.generated?`: the three decisions.
-/

namespace CodeGraph

/-- Why a file is not parsed. -/
inductive SkipReason where
  | directoryFilter
  | extensionFilter
  | ignored
  | empty
  | generated
  | tooLarge
  | unsupportedLanguage
  | nonSource
deriving DecidableEq, Repr, Inhabited

/-- The code a reason is reported under. -/
def SkipReason.code : SkipReason → String
  | directoryFilter => "directory_filter"
  | extensionFilter => "extension_filter"
  | ignored => "ignored"
  | empty => "empty"
  | generated => "generated"
  | tooLarge => "too_large"
  | unsupportedLanguage => "unsupported_language"
  | nonSource => "non_source"

/-- What a file is. -/
inductive Category where
  | source (language : String)
  | config
  | other
deriving DecidableEq, Repr, Inhabited

/-- The name a category is written under. -/
def Category.name : Category → String
  | source _ => "source"
  | config => "config"
  | other => "non_source"

/-- The language of a source file. -/
def Category.language? : Category → Option String
  | source language => some language
  | _ => none

/-- Star patterns of configuration file names, in lower case. -/
def configPatterns : List String :=
  ["package.json", "tsconfig*.json", ".env", ".env.*", "dockerfile", "dockerfile.*",
   "requirements.txt", "requirements-*.txt", "pyproject.toml"]

/-- Whether a path names a configuration file. -/
def isConfigFile (path : String) : Bool :=
  configPatterns.any fun p => Text.Glob.matchesText p (Text.lower (Path.name path))

/-- Hidden directories that are not ignored. -/
def allowedHiddenDirectories : List String :=
  [".github"]

/-- The filters and settings in force, in lower case. -/
structure Selection where
  directoryFilters : List String
  extensionFilters : List String
  ignoredDirectories : List String
  ignoredNames : List String
  ignoredExtensions : List String
  /-- Language by extension; a later language takes an extension over. -/
  languages : OrderedMap String String
  maxFileSize : Int
  maxFirstLineLength : Int
  bundlerSignatures : List String

namespace Selection

/-- The filters that a user's comma separated text stands for. -/
def filters (value : Option String) : List String :=
  Text.commaSeparated (value.getD "")

/-- An extension with its dot, in lower case. -/
def dotted (extension : String) : String :=
  Text.lower (if Text.startsWith "." extension then extension else "." ++ extension)

/-- Languages by extension. -/
def languageTable (extensions : OrderedMap String (List String)) : OrderedMap String String :=
  .ofList (extensions.toList.flatMap fun (language, exts) =>
    exts.map fun e => (Text.lower e, language))

/-- The selection for settings and a user's options. -/
def ofSettings (settings : Settings) (options : Options) : Selection where
  directoryFilters := (filters options.directoryFilter).map fun d =>
    Text.trimWhile (· = '/') (Text.lower d)
  extensionFilters := (filters options.fileExtensions).map dotted
  ignoredDirectories := settings.ignorePatterns.map Text.lower
  ignoredNames := settings.ignoredFileNames.map Text.lower
  ignoredExtensions := settings.ignoredExtensions.map Text.lower
  languages := languageTable settings.languageExtensions
  maxFileSize := settings.maxFileSize
  maxFirstLineLength := settings.maxFirstLineLength
  bundlerSignatures := settings.bundlerSignatures

/-- Whether a user asked for filters. -/
def hasFilters (s : Selection) : Bool :=
  !s.directoryFilters.isEmpty || !s.extensionFilters.isEmpty

/-- Whether some directory filter occurs in the directory of a path. -/
def matchesDirectory (s : Selection) (path : String) : Bool :=
  let directory := Text.lower (Path.directory path)
  s.directoryFilters.any fun f => Text.contains f directory

/-- Whether a path ends with some extension filter. -/
def matchesExtension (s : Selection) (path : String) : Bool :=
  let path := Text.lower path
  s.extensionFilters.any fun e => Text.endsWith e path

/-- Whether a directory name is ignored or hidden. -/
def ignoresSegment (s : Selection) (segment : String) : Bool :=
  segment ∈ s.ignoredDirectories
    || (Text.startsWith "." segment && segment ∉ allowedHiddenDirectories)

/-- Whether a path lies in an ignored directory or has an ignored name or extension. -/
def ignores (s : Selection) (path : String) : Bool :=
  let path := Text.lower path
  let parts := Text.split '/' path
  let name := parts.getLast?.getD ""
  Text.contains "site-packages/" path || Text.contains ".egg-info/" path
    || parts.dropLast.any s.ignoresSegment
    || name ∈ s.ignoredNames
    || s.ignoredExtensions.any fun e => Text.endsWith e name

/-- The first reason to leave a file out, or none to keep it. -/
def exclusion? (s : Selection) (path : String) (content : Option String) : Option SkipReason :=
  if !s.directoryFilters.isEmpty && !s.matchesDirectory path then some .directoryFilter
  else if !s.extensionFilters.isEmpty && !s.matchesExtension path then some .extensionFilter
  else if s.ignores path then some .ignored
  else match content with
    | none => some .empty
    | some text => if Text.allBlank text then some .empty else none

/-- The language of a path by its extension. -/
def language? (s : Selection) (path : String) : Option String :=
  s.languages.get? (Path.lowerExtension (Text.lower path))

/-- What a file is. -/
def classify (s : Selection) (path : String) : Category :=
  if isConfigFile path then .config
  else match s.language? path with
    | some language => .source language
    | none => .other

/-- Why a source file is not parsed: too large, minified, or the output of a bundler. -/
def generated? (s : Selection) (content : String) : Option SkipReason :=
  if s.maxFileSize < Text.length content then some .tooLarge
  else if s.maxFirstLineLength < Text.length (Text.beforeChar '\n' content) then some .generated
  else if s.bundlerSignatures.any fun sig => Text.contains sig content then some .generated
  else none

end Selection

end CodeGraph
