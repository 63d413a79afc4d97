import CodeGraph.Extract.Imports
import CodeGraph.Proofs.Answers

/-!
# The name of the default

A specifier may take the default of a module under a local name: in the braces of an import, in
those of a re-export, or in the pattern around a required module. Whoever looks up the local name in
the file of the specifier should come to the default of the file that the module means.

The reader of imports says that such a specifier takes the default. The readers of re-exports and of
required modules say that it takes something of the name `default`, which is a different thing: the
search then asks the other file for a definition of that name.

## Main definitions

* `SourceTree.TakesDefault`: a specifier takes the default of a module under a local name.

## Main results

* `SourceTree.mem_names_of_takesDefault`: what the readers say about such a specifier.
* `Symbols.lookup_taken_default`: the default is found through an import, unless the local name is
  bound before.
* `Symbols.DefaultAs.lookup_reexported_default`: a default that is not found through a re-export.
-/

namespace CodeGraph

/-! ### Reading -/

namespace SourceTree

variable (src : SourceTree)

/-- A specifier in braces names the default, and gives it another name or none. -/
def NamesDefault (kind : String) (c : Nat) (name : String) : Prop :=
  src.tree.kind c = kind ∧ src.fieldText c "name" = "default" ∧
    name = if src.fieldText c "alias" = "" then "default" else src.fieldText c "alias"

/--
A specifier of a statement takes the default of a module under a local name. A statement that
requires a module has the pattern of its names around it.
-/
inductive TakesDefault : QueryName → Nat → String → Prop
  | imported {i clause list c : Nat} {name : String} :
      clause ∈ src.tree.namedChildren i → src.tree.kind clause = "import_clause" →
      list ∈ src.tree.namedChildren clause → src.tree.kind list = "named_imports" →
      c ∈ src.tree.namedChildren list → src.NamesDefault "import_specifier" c name →
      TakesDefault .imports i name
  | reexported {i list c : Nat} {name : String} :
      list ∈ src.tree.children i → src.tree.kind list = "export_clause" →
      c ∈ src.tree.namedChildren list → src.NamesDefault "export_specifier" c name →
      TakesDefault .reexports i name
  | required {i declarator pattern c value : Nat} {name : String} :
      src.tree.parent? i = some declarator → src.tree.kind declarator = "variable_declarator" →
      src.tree.childByField? declarator "name" = some pattern →
      src.tree.kind pattern = "object_pattern" →
      c ∈ src.tree.namedChildren pattern → src.tree.kind c = "pair_pattern" →
      src.fieldText c "key" = "default" → src.tree.childByField? c "value" = some value →
      src.tree.kind value = "identifier" → src.text value = name → name ≠ "" →
      TakesDefault .requires i name

variable {src}

/-- The local name of the default is not empty. -/
theorem TakesDefault.name_ne_empty {query : QueryName} {i : Nat} {name : String}
    (h : src.TakesDefault query i name) : name ≠ "" := by
  have hspecifier : ∀ {kind c}, src.NamesDefault kind c name → name ≠ "" := by
    rintro kind c ⟨-, -, rfl⟩
    split
    · decide
    · assumption
  cases h with
  | imported _ _ _ _ _ hc => exact hspecifier hc
  | reexported _ _ _ hc => exact hspecifier hc
  | required _ _ _ _ _ _ _ _ _ _ hne => exact hne

theorem NamesDefault.specifier? {kind : String} {c : Nat} {name : String}
    (h : src.NamesDefault kind c name) : src.specifier? kind c = some ("default", name) := by
  obtain ⟨hkind, hname, rfl⟩ := h
  simp [SourceTree.specifier?, hkind, hname]

/-- What the reader of a statement says that the name `default` stands for. -/
def defaultKind (query : QueryName) : ImportKind :=
  if query = .imports then .default else .named

/-- The name of a specifier that takes the default, as it is read. -/
def readDefault (query : QueryName) (name : String) : ImportedName where
  localName := some name
  importedName := some "default"
  kind := defaultKind query

/-- The names of a statement are read in one of three ways. -/
theorem names_of_mem_scriptImports {query : QueryName} {i : Nat} {source : Option Nat}
    {spec : ImportSpec} (h : spec ∈ src.scriptImports query i source) :
    spec.names =
      if query = .requires then src.requiredNames i
      else if query = .reexports then (src.tree.children i).flatMap src.reexportedNames
      else (((src.tree.namedChildren i).filter fun c => src.tree.kind c = "import_clause").flatMap
        src.tree.namedChildren).flatMap src.clauseNames := by
  unfold scriptImports at h
  dsimp only at h
  split at h
  · cases h
  split at h
  · next hrequires => rw [List.mem_singleton.mp h, if_pos hrequires]
  · next hrequires =>
    rw [if_neg hrequires]
    split at h
    · next hreexports => rw [List.mem_singleton.mp h, if_pos hreexports]
    · next hreexports => rw [List.mem_singleton.mp h, if_neg hreexports]

/-- A specifier that takes the default is read, in each of the three places. -/
theorem mem_names_of_takesDefault {query : QueryName} {i : Nat} {name : String}
    (h : src.TakesDefault query i name) {source : Option Nat} {spec : ImportSpec}
    (hspec : spec ∈ src.scriptImports query i source) : readDefault query name ∈ spec.names := by
  rw [names_of_mem_scriptImports hspec]
  cases h with
  | @imported i clause list c _ hclause hkind hlist hlistKind hc hnames =>
    refine List.mem_flatMap.mpr ⟨list, List.mem_flatMap.mpr ⟨clause, ?_, hlist⟩, ?_⟩
    · exact List.mem_filter.mpr ⟨hclause, decide_eq_true hkind⟩
    · simp only [clauseNames, hlistKind]
      exact List.mem_filterMap.mpr ⟨c, hc, by rw [hnames.specifier?]; rfl⟩
  | @reexported i list c _ hlist hlistKind hc hnames =>
    refine List.mem_flatMap.mpr ⟨list, hlist, ?_⟩
    simp only [reexportedNames, hlistKind]
    exact List.mem_filterMap.mpr ⟨c, hc, by rw [hnames.specifier?]; rfl⟩
  | @required i declarator pattern c value _ hparent hdeclarator hpattern hpatternKind hc hkind
      hkey hvalue hvalueKind htext hne =>
    have hname : src.requiredName? c = some (readDefault .requires name) := by
      simp [requiredName?, hkind, hkey, hvalue, hvalueKind, htext, readDefault, defaultKind]
    simp only [requiredNames, hparent, hdeclarator, hpattern, hpatternKind]
    exact List.mem_filterMap.mpr ⟨c, hc, hname⟩

end SourceTree

/-- The binding of a specifier that takes the default of a file. -/
def ImportBinding.ofDefault (query : QueryName) (target name : String) : ImportBinding where
  localName := name
  targetFile := target
  importedName := some "default"
  kind := SourceTree.defaultKind query

/-- In an import the name stands for the default. -/
theorem ImportBinding.export_ofDefault_imports (target name : String) :
    (ofDefault .imports target name).export = .default :=
  rfl

/-- Elsewhere the name stands for itself. -/
theorem ImportBinding.export_ofDefault_of_ne {query : QueryName} (h : query ≠ .imports)
    (target name : String) : (ofDefault query target name).export = .named "default" := by
  simp only [ImportBinding.export, ofDefault, SourceTree.defaultKind, if_neg h]
  rfl

/-- A specifier that takes the default binds its local name to the file that its module means. -/
theorem ImportTarget.mem_bindings_ofNames {res : Resolution} {names : List ImportedName}
    {query : QueryName} {name : String} (h : SourceTree.readDefault query name ∈ names)
    (hname : name ≠ "") :
    .ofDefault query res.target name ∈ (ImportTarget.ofNames res names).bindings := by
  refine List.mem_filterMap.mpr ⟨_, h, ?_⟩
  cases query <;>
    simp [ImportedName.binding?, ImportBinding.ofDefault, SourceTree.readDefault,
      SourceTree.defaultKind, present?, Option.filter_some, hname]

/-- An import of a script has one target, which all its names are taken from. -/
theorem Registry.exists_of_mem_resolveImport_script {l : Language}
    (hl : l ∈ [.javascript, .typescript, .tsx]) {r : Registry} {path : String} {spec : ImportSpec}
    {t : ImportTarget} (ht : t ∈ r.resolveImport path l.name spec) :
    ∃ res, t = .ofNames res spec.names := by
  have hscript : r.resolveImport path l.name spec = r.resolveScript path l.name spec := by
    simp only [List.mem_cons, List.not_mem_nil, or_false] at hl
    obtain rfl | rfl | rfl := hl <;> rfl
  rw [hscript, resolveScript, Option.mem_toList, Option.map_eq_some_iff] at ht
  obtain ⟨res, -, rfl⟩ := ht
  exact ⟨res, rfl⟩

/-! ### Following the local name -/

namespace Symbols

variable {s : Symbols}

/-- A local name that stands for the default of another file leads to what is held there. -/
theorem lookup_of_default {limit : Nat} (hlimit : 0 < limit) {path name : String}
    (hheld : s.held? path (.named name) = none) {b : ImportBinding}
    (hb : s.imports.binding? path name = some b) (hdefault : b.export = .default)
    (hother : b.targetFile ≠ path) {d : Definition} (hd : s.held? b.targetFile .default = some d) :
    s.lookup limit path (.named name) = some d := by
  obtain ⟨hops, rfl⟩ := Nat.exists_eq_succ_of_ne_zero hlimit.ne'
  have hnext : s.next ⟨path, .named name⟩ =
      ⟨b.targetFile, .default⟩ :: (s.imports.wildcards path).map (⟨·, .named name⟩) := by
    rw [next, Export.key, hb, Option.map_some, hdefault]
    rfl
  have hnew : (⟨b.targetFile, .default⟩ : Place).visit ∉ [(⟨path, .named name⟩ : Place).visit] := by
    intro hmem
    exact hother (congrArg Prod.fst (List.mem_singleton.mp hmem))
  rw [lookup_eq_searchAll s _ ⟨path, .named name⟩, searchAll_singleton,
    search_succ_of_none List.not_mem_nil hheld, hnext,
    searchAll_cons_of_some (search_of_held hnew hd)]

/-- A file with a callable default holds one. -/
theorem exists_held?_default {ds : List Definition} (hlists : s.registry.Lists ds) {path : String}
    {d : Definition} (hd : d ∈ ds) (hnames : (⟨path, .default⟩ : Place).Names d) :
    ∃ d', s.held? path .default = some d' := by
  obtain ⟨hpath, hcallable, hdefault⟩ := hnames
  have hmem : d ∈ (s.registry.inFile path).filter fun d =>
      d.isDefaultExport && d.kind.isCallable := by
    rw [hlists.inFile, List.mem_filter, List.mem_filter]
    exact ⟨⟨hd, decide_eq_true hpath⟩, by rw [hdefault, hcallable]; rfl⟩
  exact Option.isSome_iff_exists.mp (List.isSome_head?.mpr (List.ne_nil_of_mem hmem))

/--
A specifier of a parsed script takes the default of a module, the module means a file with a
callable default, and the file of the specifier holds nothing of the local name. Then looking up the
local name in its file yields a default of the other file, within any positive number of hops. There
are two exceptions: the specifier stands in a re-export or around a required module, and its binding
asks for the name `default` instead; or another import of the file binds the local name before.
-/
theorem lookup_taken_default {l : Language} (hl : l ∈ [.javascript, .typescript, .tsx])
    {src : SourceTree} {query : QueryName} {i : Nat} {name : String}
    (htakes : src.TakesDefault query i name) {source : Option Nat} {spec : ImportSpec}
    (hspec : spec ∈ src.scriptImports query i source) {parsed : ParsedFiles}
    (hnodup : parsed.keys.Nodup) {path : String} {p : ParsedFile}
    (hp : parsed.get? path = some p) (hlanguage : p.language = l.name)
    (hrecorded : src.importDefinition l path i spec ∈ p.definitions)
    (arrivals : List Registry.Arrival) {limit : Nat} (hlimit : 0 < limit) :
    let r := arrivals.foldl Registry.receive Registry.empty
    let ds := arrivals.filterMap Registry.Arrival.definition?
    let s : Symbols := ⟨r, (Imports.ofFiles r parsed).map⟩
    ∀ t ∈ r.resolveImport path l.name spec,
      (∃ d ∈ ds, (⟨t.resolution.target, .default⟩ : Place).Names d) →
      s.held? path (.named name) = none →
      (∃ d ∈ ds, s.lookup limit path (.named name) = some d ∧
        (⟨t.resolution.target, .default⟩ : Place).Names d) ∨
      (query ≠ .imports ∧ ∃ b, s.imports.binding? path name = some b ∧
        b.targetFile = t.resolution.target ∧ b.export = .named "default") ∨
      ∃ b ∈ ResolvedFile.offers r path p, s.imports.binding? path name = some b ∧
        b ≠ .ofDefault query t.resolution.target name := by
  rintro r ds s t ht ⟨d, hd, hdefault⟩ hheld
  obtain ⟨files, hholds⟩ := Registry.Holds.empty.foldl_receive arrivals
  obtain ⟨-, hother⟩ := (hholds.sound_of_mem_resolveImport ht).target
  -- the specifier would bind the local name
  have hoffer : .ofDefault query t.resolution.target name ∈ ResolvedFile.offers r path p := by
    refine List.mem_flatMap.mpr ⟨src.importDefinition l path i spec, ?_, ?_⟩
    · exact List.mem_filter.mpr ⟨hrecorded, rfl⟩
    · refine List.mem_flatMap.mpr ⟨spec, Option.mem_toList.mpr rfl, ?_⟩
      refine List.mem_flatMap.mpr ⟨t, hlanguage ▸ ht, ?_⟩
      obtain ⟨res, rfl⟩ := Registry.exists_of_mem_resolveImport_script hl ht
      exact ImportTarget.mem_bindings_ofNames (SourceTree.mem_names_of_takesDefault htakes hspec)
        htakes.name_ne_empty
  -- so some import binds it
  have hbinding : s.imports.binding? path name =
      (ResolvedFile.offers r path p).find? (·.localName = name) :=
    Imports.binding?_map hnodup hp name
  obtain ⟨b, hb⟩ : ∃ b, s.imports.binding? path name = some b := by
    rw [hbinding, ← Option.isSome_iff_exists, List.find?_isSome]
    exact ⟨_, hoffer, decide_eq_true rfl⟩
  by_cases hown : b = .ofDefault query t.resolution.target name
  · by_cases hquery : query = .imports
    · subst hquery hown
      obtain ⟨found, hfound⟩ := exists_held?_default (s := s) hholds.toLists hd hdefault
      obtain ⟨hmem, hnames⟩ := names_of_held? (p := ⟨_, .default⟩) hholds.toLists hfound
      have hlookup := lookup_of_default hlimit hheld hb
        (ImportBinding.export_ofDefault_imports _ _) hother hfound
      exact .inl ⟨found, hmem, hlookup, hnames⟩
    · subst hown
      exact .inr (.inl ⟨hquery, _, hb, rfl, ImportBinding.export_ofDefault_of_ne hquery _ _⟩)
  · exact .inr (.inr ⟨b, List.mem_of_find?_eq_some (hbinding.symm.trans hb), hb, hown⟩)

/-! ### An import and a re-export of a default -/

namespace DefaultAs

/-- A row of a syntax tree. -/
def row (parent : Option Nat) (kind : String) (named : Bool) (field : Option String)
    (start stop : Nat) : SyntaxNode :=
  { kind, named, field, start, stop, parent }

/-- The statement `import { default as X } from './t';`. -/
def importStatement : SourceTree where
  bytes := "import { default as X } from './t';".toUTF8
  tree := .ofRows [
    row none "import_statement" true none 0 35,
    row (some 0) "import" false none 0 6,
    row (some 0) "import_clause" true none 7 23,
    row (some 2) "named_imports" true none 7 23,
    row (some 3) "import_specifier" true none 9 21,
    row (some 4) "default" false (some "name") 9 16,
    row (some 4) "as" false none 17 19,
    row (some 4) "identifier" true (some "alias") 20 21,
    row (some 0) "from" false none 24 28,
    row (some 0) "string" true (some "source") 29 34] false

/-- The statement `export { default as X } from './t';`. -/
def exportStatement : SourceTree where
  bytes := "export { default as X } from './t';".toUTF8
  tree := .ofRows [
    row none "export_statement" true none 0 35,
    row (some 0) "export" false none 0 6,
    row (some 0) "export_clause" true none 7 23,
    row (some 2) "export_specifier" true none 9 21,
    row (some 3) "default" false (some "name") 9 16,
    row (some 3) "as" false none 17 19,
    row (some 3) "identifier" true (some "alias") 20 21,
    row (some 0) "from" false none 24 28,
    row (some 0) "string" true (some "source") 29 34] false

theorem takesDefault_importStatement : importStatement.TakesDefault .imports 0 "X" := by
  have hclause : 2 ∈ importStatement.tree.namedChildren 0 := by decide
  have hlist : 3 ∈ importStatement.tree.namedChildren 2 := by decide
  have hc : 4 ∈ importStatement.tree.namedChildren 3 := by decide
  refine .imported hclause ?_ hlist ?_ hc ⟨?_, ?_, ?_⟩ <;> decide

theorem takesDefault_exportStatement : exportStatement.TakesDefault .reexports 0 "X" := by
  have hlist : 2 ∈ exportStatement.tree.children 0 := by decide
  have hc : 3 ∈ exportStatement.tree.namedChildren 2 := by decide
  refine .reexported hlist ?_ hc ⟨?_, ?_, ?_⟩ <;> decide

/-- What is read of a statement that takes the default of `./t` as `X`. -/
def spec (query : QueryName) : ImportSpec where
  moduleName := "./t"
  names := [SourceTree.readDefault query "X"]
  isReexport := query = .reexports
  line := 1

set_option maxRecDepth 2000 in
theorem spec_mem_importStatement :
    spec .imports ∈ importStatement.scriptImports .imports 0 (some 9) := by
  decide

set_option maxRecDepth 2000 in
theorem spec_mem_exportStatement :
    spec .reexports ∈ exportStatement.scriptImports .reexports 0 (some 8) := by
  decide

/-- The file `c.js` that consists of such a statement. -/
def file (src : SourceTree) (query : QueryName) : ParsedFile where
  filePath := "c.js"
  language := Language.javascript.name
  contentHash := ""
  fileSize := 35
  definitions := [src.importDefinition .javascript "c.js" 0 (spec query)]

/-- The default of the file `t.js`. -/
def definition : Definition :=
  { nodeId := ""
    qualifiedName := "t.f"
    filePath := "t.js"
    name := "f"
    kind := .functionDecl
    isDefaultExport := true
    startLine := 1
    endLine := 1 }

/-- Both files are registered. -/
def arrivals : List Registry.Arrival :=
  [.file "c.js", .definition definition]

def known : Registry :=
  arrivals.foldl Registry.receive Registry.empty

def parsed (src : SourceTree) (query : QueryName) : ParsedFiles :=
  ⟨[("c.js", file src query)]⟩

def symbols (src : SourceTree) (query : QueryName) : Symbols where
  registry := known
  imports := (Imports.ofFiles known (parsed src query)).map

/-- The module is the file `t.js`. -/
def target (query : QueryName) : ImportTarget :=
  .ofNames (.found "t.js" .exact) (spec query).names

theorem target_mem (query : QueryName) :
    target query ∈ known.resolveImport "c.js" Language.javascript.name (spec query) := by
  cases query <;> decide

theorem names_definition : (⟨"t.js", .default⟩ : Place).Names definition :=
  ⟨rfl, rfl, rfl⟩

theorem held?_eq_none (src : SourceTree) (query : QueryName) :
    (symbols src query).held? "c.js" (.named "X") = none := by
  -- what a file holds does not depend on imports
  have hheld : (⟨known, ∅⟩ : Symbols).held? "c.js" (.named "X") = none := by decide +kernel
  exact hheld

/-- The import binds `X`, and nothing else. -/
theorem offers_importStatement :
    ∀ b ∈ ResolvedFile.offers known "c.js" (file importStatement .imports),
      b = .ofDefault .imports "t.js" "X" := by
  decide

theorem lookup_exportStatement :
    (symbols exportStatement .reexports).lookup 5 "c.js" (.named "X") = none := by
  decide +kernel

/-- Through the import the default of `t.js` is found. -/
theorem lookup_taken_default_imported :
    importStatement.TakesDefault .imports 0 "X" ∧
      (symbols importStatement .imports).lookup 1 "c.js" (.named "X") = some definition := by
  have hnodup : (parsed importStatement .imports).keys.Nodup := List.nodup_singleton "c.js"
  have hp : (parsed importStatement .imports).get? "c.js" =
      some (file importStatement .imports) := rfl
  have hfound := lookup_taken_default (l := .javascript) (by decide) takesDefault_importStatement
    spec_mem_importStatement hnodup hp rfl List.mem_cons_self arrivals Nat.one_pos (target .imports)
    (target_mem .imports) ⟨definition, List.mem_cons_self, names_definition⟩ (held?_eq_none _ _)
  refine ⟨takesDefault_importStatement, ?_⟩
  rcases hfound with ⟨d, hd, hlookup, -⟩ | ⟨hquery, -⟩ | ⟨b, hb, -, hne⟩
  · rwa [List.mem_singleton.mp hd] at hlookup
  · exact absurd rfl hquery
  · exact absurd (offers_importStatement b hb) hne

/-- Through the re-export nothing is found, though `t.js` has a default. -/
theorem lookup_reexported_default :
    exportStatement.TakesDefault .reexports 0 "X" ∧
    spec .reexports ∈ exportStatement.scriptImports .reexports 0 (some 8) ∧
    exportStatement.importDefinition .javascript "c.js" 0 (spec .reexports) ∈
      (file exportStatement .reexports).definitions ∧
    target .reexports ∈ known.resolveImport "c.js" Language.javascript.name (spec .reexports) ∧
    (⟨(target .reexports).resolution.target, .default⟩ : Place).Names definition ∧
    (symbols exportStatement .reexports).held? "c.js" (.named "X") = none ∧
    (symbols exportStatement .reexports).lookup 5 "c.js" (.named "X") = none :=
  ⟨takesDefault_exportStatement, spec_mem_exportStatement, List.mem_cons_self,
    target_mem .reexports, names_definition, held?_eq_none _ _, lookup_exportStatement⟩

end DefaultAs

end Symbols

end CodeGraph
