import CodeGraph.Proofs.Integrity

/-!
# Relationships of calls follow relationships of imports

A relationship of calls leads from the calling file, or a function, method or class in it, to a
function, method or class. It stays in the file if it says that it is resolved locally, and there
is a bounded chain of relationships of imports to the other file if it says that it is resolved
through imports.

## Main definitions

* `Graph.IsFile`, `Graph.IsCallable`: what the node under an identifier is.
* `Graph.ImportEdge`: one relationship of imports.
* `Engine.definitions`: all definitions that a run finds.

## Main results

* `Stages.Complete.importEdge_of_hop`: where imports lead, there is a relationship.
* `Engine.callEdge_justified`: the relationships of calls of a run that returns.
-/

namespace CodeGraph

open Inventory (Entry)

/-! ### Nodes and edges of a graph -/

namespace Graph

/-- The node under an identifier is that of a file. -/
def IsFile (g : Graph) (path id : String) : Prop :=
  ∃ n, g.node? id = some n ∧ n.label = .file ∧ n.properties.get? "path" = some (.text path)

/-- The node under an identifier is that of a function, method or class in a file. -/
def IsCallable (g : Graph) (path id : String) : Prop :=
  ∃ n, g.node? id = some n ∧
    (n.label = .functionDecl ∨ n.label = .methodDecl ∨ n.label = .classDecl) ∧
    n.properties.get? "filePath" = some (.text path)

/-- A relationship of imports leads from one node to another. -/
def ImportEdge (g : Graph) (source target : String) : Prop :=
  ∃ r ∈ g.relationships, r.kind = .imports ∧ r.source = source ∧ r.target = target

/-- A node that is a file, or a callable in one, is of one file. -/
theorem path_unique {g : Graph} {path path' id : String}
    (h : g.IsFile path id ∨ g.IsCallable path id)
    (h' : g.IsFile path' id ∨ g.IsCallable path' id) : path = path' := by
  rcases h with ⟨n, hn, hlabel, hpath⟩ | ⟨n, hn, hlabel, hpath⟩ <;>
    rcases h' with ⟨n', hn', hlabel', hpath'⟩ | ⟨n', hn', hlabel', hpath'⟩ <;>
    obtain rfl := Option.some.inj (hn.symm.trans hn')
  · simpa [PropertyValue.text] using hpath.symm.trans hpath'
  · simp [hlabel] at hlabel'
  · simp [hlabel'] at hlabel
  · simpa [PropertyValue.text] using hpath.symm.trans hpath'

end Graph

/-- The definitions that a run finds in the files it parses. -/
def Engine.definitions (e : Engine) (request : Request) (i : Interruptions) (cache : Cache) :
    List Definition :=
  ((e.stages? request i cache).map Stages.definitions).getD []

/-- The definitions of a run with an outline. -/
theorem Stages.Outlined.definitions_eq {s : Stages} {os : List FileOutcome} {e : Engine}
    {l : Language} {files : List SourceFile} {request : Request} {o : Outline}
    (h : s.Outlined os e l files request o) :
    e.definitions request {} (Cache.ofSettings e.settings) = s.definitions := by
  rw [Engine.definitions, h.stages]
  rfl

/-- The definitions of a run with an outline are those of its sources. -/
theorem Stages.Outlined.definitions_files {s : Stages} {os : List FileOutcome} {e : Engine}
    {l : Language} {files : List SourceFile} {request : Request} {o : Outline}
    (h : s.Outlined os e l files request o) :
    e.definitions request {} (Cache.ofSettings e.settings) =
      files.flatMap fun f => (f.parsed e l).definitions := by
  rw [h.definitions_eq, Stages.definitions, h.files_eq, List.flatMap_map]

/-- Callable definitions have the labels of functions, methods and classes. -/
theorem DefinitionKind.label_of_isCallable {k : DefinitionKind} (h : k.isCallable = true) :
    k.label = .functionDecl ∨ k.label = .methodDecl ∨ k.label = .classDecl := by
  cases k <;> simp_all [isCallable, label]

/-- The node of a definition has the path of its file. -/
theorem Definition.get?_filePath_properties (d : Definition) :
    d.properties.get? "filePath" = some (.text d.filePath) :=
  rfl

namespace Stages

variable {s : Stages} {os : List FileOutcome} {e : Engine}

/-! ### Nodes of callers and targets -/

/-- A visible file has its node. -/
theorem Complete.isFile (h : s.Complete os) (hinj : s.Injective e) {path : String}
    (hp : path ∈ s.plan.visible) : (s.graph e).IsFile path (Containment.fileId path) :=
  ⟨_, h.node?_fileId hinj hp, rfl, get?_path_described s os path⟩

/-- An entered callable has its node. -/
theorem Complete.isCallable_entered (h : s.Complete os) (hinj : s.Injective e) {x : Entry}
    (hx : x ∈ s.entered) (hcallable : x.definition.kind.isCallable = true) :
    (s.graph e).IsCallable x.definition.filePath x.id :=
  ⟨_, h.node?_entered hinj hx, DefinitionKind.label_of_isCallable hcallable,
    x.definition.get?_filePath_properties⟩

/-- A definition of a file is entered, or another one with the same text is. -/
theorem Complete.exists_entered (h : s.Complete os) (hinj : s.Injective e) {path : String}
    {f : ParsedFile} (hf : (path, f) ∈ s.files) {d : Definition} (hd : d ∈ f.definitions) :
    ∃ x ∈ s.entered, x.id = d.nodeId ∧ x.definition.idSource = d.idSource := by
  have hx : (⟨Containment.fileId path, f.definitions.filter (·.kind.isType), d⟩ : Entry) ∈
      s.entries := List.mem_flatMap.mpr ⟨(path, f), hf, List.mem_map_of_mem hd⟩
  obtain ⟨x, hmem, hid⟩ := (exists_mem_fresh s.skeleton.graph.ids hx).resolve_left
    (h.id_notMem_skeleton hinj.nodes hx)
  refine ⟨x, hmem, hid, ?_⟩
  obtain ⟨_, g, hg, -, hdef, -, hauth⟩ := h.exists_of_mem_entries (mem_of_mem_fresh hmem).1
  obtain ⟨-, hpath, hfile⟩ := h.exists_of_mem_files hf
  refine hinj (idSource_mem_texts hg hdef) (idSource_mem_texts hf hd) ?_
  rw [← hauth.nodeId, ← (hfile.definitions d hd).nodeId]
  exact hid

/-- A caller is a function, method or class of its file, if texts tell files apart. -/
theorem Complete.isCallable_caller (h : s.Complete os) (hinj : s.Injective e)
    (hfiles : ∀ d ∈ s.definitions, ∀ d' ∈ s.definitions, d.idSource = d'.idSource →
      d.filePath = d'.filePath)
    {path : String} {f : ParsedFile} (hf : (path, f) ∈ s.files) {site : CallSite}
    (hsite : site ∈ f.callSites) {id : String} (hid : site.callerId = some id) :
    (s.graph e).IsCallable path id := by
  obtain ⟨-, hpath, hauth⟩ := h.exists_of_mem_files hf
  obtain ⟨d, hd, hcallable, rfl⟩ := hauth.caller site hsite id hid
  obtain ⟨x, hx, hsame, htext⟩ := h.exists_entered hinj hf hd
  obtain ⟨_, g, hg, -, hdef, -, -⟩ := h.exists_of_mem_entries (mem_of_mem_fresh hx).1
  have hfile : x.definition.filePath = path := by
    rw [hfiles _ (List.mem_flatMap.mpr ⟨_, hg, hdef⟩) d (List.mem_flatMap.mpr ⟨_, hf, hd⟩) htext,
      (hauth.definitions d hd).filePath, hpath]
  have hkind : x.definition.kind.isCallable = true := by
    rw [Definition.kind_eq_of_idSource_eq htext, hcallable]
  have hnode := h.isCallable_entered hinj hx hkind
  rwa [hfile, hsame] at hnode

/-! ### Imports -/

/-- Where the imports of a file lead, there is a relationship of imports. -/
theorem Complete.importEdge_of_hop (h : s.Complete os) (hinj : s.Injective e)
    {path target : String} (hop : (s.links e).imports.Hop path target) :
    (s.graph e).ImportEdge (Containment.fileId path) (Containment.fileId target) := by
  obtain ⟨⟨p, hp⟩, htarget, -⟩ := Imports.Hop.mem h.holds hop
  have hs : s.skeleton.fileIds.get? path = some (Containment.fileId path) := by
    rw [get?_fileIds, if_pos (h.exists_of_mem_files hp).1]
  have ht : s.skeleton.fileIds.get? target = some (Containment.fileId target) := by
    rw [get?_fileIds, if_pos htarget]
  obtain ⟨r, hr, hkind, hsource, htarget⟩ := Imports.exists_relationship_of_hop hop hs ht
  have hoffered : r ∈ s.offered e :=
    List.mem_append_right _ (List.mem_append_left _ (List.mem_append_left _ hr))
  obtain ⟨r', hr', hsource', hkind', htarget'⟩ := h.exists_kept hinj hoffered
  exact ⟨r', hr', hkind'.trans hkind, hsource'.trans hsource, htarget'.trans htarget⟩

/-- The import map of a run leads along hops. -/
theorem Complete.follows (h : s.Complete os) :
    Symbols.Follows ⟨s.parsing.inventory.registry, (s.links e).imports.map⟩
      (s.links e).imports.Hop :=
  ⟨fun _ _ _ hb => Imports.hop_of_binding? h.holds h.nodup_keys hb,
    fun _ _ ht => Imports.hop_of_mem_wildcards h.holds h.nodup_keys ht⟩

/-! ### Calls -/

/-- Only calls offer relationships of calls. -/
theorem Complete.mem_calls_of_kind (_ : s.Complete os) {r : Relationship} (hr : r ∈ s.offered e)
    (hkind : r.kind = .calls) :
    r ∈ (s.links e).calls.relationships := by
  rw [← filter_offered_calls]
  exact List.mem_filter.mpr ⟨hr, decide_eq_true hkind⟩

/-- A call comes from its file, or from a function, method or class there. -/
theorem Complete.isFile_or_isCallable_source (h : s.Complete os) (hinj : s.Injective e)
    (hfiles : ∀ d ∈ s.definitions, ∀ d' ∈ s.definitions, d.idSource = d'.idSource →
      d.filePath = d'.filePath)
    {c : ClassifiedCall} (hc : c ∈ (s.links e).calls.sites) {id : String}
    (hid : Calls.sourceId? s.parsing.inventory.graph s.skeleton.fileIds c = some id) :
    (s.graph e).IsFile c.path id ∨ (s.graph e).IsCallable c.path id := by
  obtain ⟨f, hf, hsite, -, -⟩ := exists_of_mem_sites hc
  rcases eq_some_or_of_orElse hid with hcaller | hfileId
  · obtain ⟨hpresent, -⟩ := Option.filter_eq_some_iff.mp hcaller
    obtain ⟨hcaller, -⟩ := Option.filter_eq_some_iff.mp hpresent
    exact .inr (h.isCallable_caller hinj hfiles hf hsite hcaller)
  · have hvisible := (h.exists_of_mem_files hf).1
    rw [get?_fileIds, if_pos hvisible] at hfileId
    obtain rfl := Option.some.inj hfileId
    exact .inl (h.isFile hinj hvisible)

/-- A call leads to a callable in its file, or in one that relationships of imports lead to. -/
theorem Complete.call_cases (h : s.Complete os) (hinj : s.Injective e) {c : ClassifiedCall}
    (hc : c ∈ (s.links e).calls.sites) {d : Definition} (hd : c.target = some d) :
    (s.graph e).IsCallable d.filePath d.nodeId ∧ d.filePath ∈ s.plan.visible ∧
      (c.state = .localTarget ∧ d.filePath = c.path ∨
        c.state = .imported ∧ ∃ n, 1 ≤ n ∧ n ≤ e.settings.maxReexportDepth + 1 ∧
          Steps (s.graph e).ImportEdge n (Containment.fileId c.path)
            (Containment.fileId d.filePath)) := by
  obtain ⟨f, hf, hsite, hstate, htarget⟩ := exists_of_mem_sites hc
  obtain ⟨-, hpath, hauth⟩ := h.exists_of_mem_files hf
  have hsitePath : c.site.filePath = c.path := (hauth.site c.site hsite).trans hpath
  have hholds : (s.callContext e).registry.Holds s.plan.visible (s.entered.map Entry.definition) :=
    h.holds
  obtain ⟨hmem, hcallable, hcases⟩ :=
    CallContext.classify_cases hholds h.follows f.language c.site (htarget ▸ hd)
  rw [← hstate] at hcases
  obtain ⟨x, hx, rfl⟩ := List.mem_map.mp hmem
  obtain ⟨_, g, hg, -, -, -, hxauth⟩ := h.exists_of_mem_entries (mem_of_mem_fresh hx).1
  refine ⟨h.isCallable_entered hinj hx hcallable, ?_, ?_⟩
  · rw [hxauth.filePath]
    exact (h.exists_of_mem_files hg).1
  · rcases hcases with ⟨himported, -, -, n, hone, hn, hsteps⟩ | ⟨hlocal, hfile⟩
    · rw [hsitePath] at hsteps
      exact .inr ⟨himported, n, hone, hn,
        hsteps.map Containment.fileId fun _ _ hop => h.importEdge_of_hop hinj hop⟩
    · exact .inl ⟨hlocal, hfile.trans hsitePath⟩

end Stages

/--
Every relationship of calls leads from the calling file or a callable in it to a callable, which is
in the same file or at the end of a bounded chain of relationships of imports.
-/
theorem Engine.callEdge_justified (e : Engine) (request : Request) (i : Interruptions)
    {cache : Cache} (hcache : cache.Reachable) {res : IngestResult}
    (hrun : (e.run request i cache).1 = .ok res)
    (hinj : Set.InjOn Identifier.digest {t | t ∈ e.hashed request i cache})
    (hfiles : ∀ d ∈ e.definitions request i cache, ∀ d' ∈ e.definitions request i cache,
      d.idSource = d'.idSource → d.filePath = d'.filePath)
    {r : Relationship} (hr : r ∈ res.store.graph.relationships) (hkind : r.kind = .calls) :
    ∃ path target fileId targetId,
      (res.store.graph.IsFile path r.source ∨ res.store.graph.IsCallable path r.source) ∧
      res.store.graph.IsCallable target r.target ∧
      res.store.graph.IsFile path fileId ∧ res.store.graph.IsFile target targetId ∧
      (r.properties.get? "callType" = some (.text "LocalResolved") ∧ target = path ∨
        r.properties.get? "callType" = some (.text "ImportResolved") ∧
          ∃ n, 1 ≤ n ∧ n ≤ e.settings.maxReexportDepth + 1 ∧
            Steps res.store.graph.ImportEdge n fileId targetId) := by
  obtain ⟨s, os, after, hstages, rfl, -, hs, rfl⟩ := Engine.exists_complete hcache.sound hrun
  have hinj' : s.Injective e := Stages.injective_of_hashed hstages hinj
  rw [Engine.definitions, hstages] at hfiles
  have hkept : r ∈ (s.graph e).relationships := hr
  obtain ⟨edge, hbetween, c, hc, d, hd, hsource, htarget, -, hstate⟩ :=
    s.exists_of_mem_calls (hs.mem_calls_of_kind (hs.mem_offered hkept) hkind)
  dsimp only at hsource htarget
  have hcallType : r.properties.get? "callType" = some (.text c.state.name) := by
    rw [congrArg Relationship.properties hbetween, ← hstate]
    rfl
  obtain ⟨f, hf, -, -, -⟩ := Stages.exists_of_mem_sites hc
  obtain ⟨hcallable, hvisible, hcases⟩ := hs.call_cases hinj' hc hd
  rw [htarget] at hcallable
  refine ⟨c.path, d.filePath, Containment.fileId c.path, Containment.fileId d.filePath,
    hs.isFile_or_isCallable_source hinj' hfiles hc hsource, hcallable,
    hs.isFile hinj' (hs.exists_of_mem_files hf).1, hs.isFile hinj' hvisible, ?_⟩
  rcases hcases with ⟨hlocal, hpath⟩ | ⟨himported, hsteps⟩
  · rw [hlocal] at hcallType
    exact .inl ⟨hcallType, hpath⟩
  · rw [himported] at hcallType
    exact .inr ⟨hcallType, hsteps⟩

/-! ### A sample -/

namespace ChainSample

/-- A class with an imported base, and one with a base in its file, which calls a function. -/
def source : String :=
  "from b import f,B\nclass L(B):pass\nclass D(L):f()"

/-- Its syntax tree. -/
def tree : SyntaxTree := .ofRows
  [⟨"module", true, none, 0, 48, none, []⟩,
   ⟨"import_from_statement", true, none, 0, 17, some 0, []⟩,
   ⟨"from", false, none, 0, 4, some 1, []⟩,
   ⟨"dotted_name", true, some "module_name", 5, 6, some 1, []⟩,
   ⟨"identifier", true, none, 5, 6, some 3, []⟩,
   ⟨"import", false, none, 7, 13, some 1, []⟩,
   ⟨"dotted_name", true, some "name", 14, 15, some 1, []⟩,
   ⟨"identifier", true, none, 14, 15, some 6, []⟩,
   ⟨",", false, none, 15, 16, some 1, []⟩,
   ⟨"dotted_name", true, some "name", 16, 17, some 1, []⟩,
   ⟨"identifier", true, none, 16, 17, some 9, []⟩,
   ⟨"class_definition", true, none, 18, 33, some 0, []⟩,
   ⟨"class", false, none, 18, 23, some 11, []⟩,
   ⟨"identifier", true, some "name", 24, 25, some 11, []⟩,
   ⟨"argument_list", true, some "superclasses", 25, 28, some 11, []⟩,
   ⟨"(", false, none, 25, 26, some 14, []⟩,
   ⟨"identifier", true, none, 26, 27, some 14, []⟩,
   ⟨")", false, none, 27, 28, some 14, []⟩,
   ⟨":", false, none, 28, 29, some 11, []⟩,
   ⟨"block", true, some "body", 29, 33, some 11, []⟩,
   ⟨"pass_statement", true, none, 29, 33, some 19, []⟩,
   ⟨"pass", false, none, 29, 33, some 20, []⟩,
   ⟨"class_definition", true, none, 34, 48, some 0, []⟩,
   ⟨"class", false, none, 34, 39, some 22, []⟩,
   ⟨"identifier", true, some "name", 40, 41, some 22, []⟩,
   ⟨"argument_list", true, some "superclasses", 41, 44, some 22, []⟩,
   ⟨"(", false, none, 41, 42, some 25, []⟩,
   ⟨"identifier", true, none, 42, 43, some 25, []⟩,
   ⟨")", false, none, 43, 44, some 25, []⟩,
   ⟨":", false, none, 44, 45, some 22, []⟩,
   ⟨"block", true, some "body", 45, 48, some 22, []⟩,
   ⟨"expression_statement", true, none, 45, 48, some 30, []⟩,
   ⟨"call", true, none, 45, 48, some 31, []⟩,
   ⟨"identifier", true, some "function", 45, 46, some 32, []⟩,
   ⟨"argument_list", true, some "arguments", 46, 48, some 32, []⟩,
   ⟨"(", false, none, 46, 47, some 34, []⟩,
   ⟨")", false, none, 47, 48, some 34, []⟩] false

/-- The imported base; the function is imported here in turn. -/
def middleSource : String :=
  "from c import f\nclass B:pass"

/-- Its syntax tree. -/
def middleTree : SyntaxTree := .ofRows
  [⟨"module", true, none, 0, 28, none, []⟩,
   ⟨"import_from_statement", true, none, 0, 15, some 0, []⟩,
   ⟨"from", false, none, 0, 4, some 1, []⟩,
   ⟨"dotted_name", true, some "module_name", 5, 6, some 1, []⟩,
   ⟨"identifier", true, none, 5, 6, some 3, []⟩,
   ⟨"import", false, none, 7, 13, some 1, []⟩,
   ⟨"dotted_name", true, some "name", 14, 15, some 1, []⟩,
   ⟨"identifier", true, none, 14, 15, some 6, []⟩,
   ⟨"class_definition", true, none, 16, 28, some 0, []⟩,
   ⟨"class", false, none, 16, 21, some 8, []⟩,
   ⟨"identifier", true, some "name", 22, 23, some 8, []⟩,
   ⟨":", false, none, 23, 24, some 8, []⟩,
   ⟨"block", true, some "body", 24, 28, some 8, []⟩,
   ⟨"pass_statement", true, none, 24, 28, some 12, []⟩,
   ⟨"pass", false, none, 24, 28, some 13, []⟩] false

/-- The function. -/
def lastSource : String :=
  "def f():pass"

/-- Its syntax tree. -/
def lastTree : SyntaxTree := .ofRows
  [⟨"module", true, none, 0, 12, none, []⟩,
   ⟨"function_definition", true, none, 0, 12, some 0, []⟩,
   ⟨"def", false, none, 0, 3, some 1, []⟩,
   ⟨"identifier", true, some "name", 4, 5, some 1, []⟩,
   ⟨"parameters", true, some "parameters", 5, 7, some 1, []⟩,
   ⟨"(", false, none, 5, 6, some 4, []⟩,
   ⟨")", false, none, 6, 7, some 4, []⟩,
   ⟨":", false, none, 7, 8, some 1, []⟩,
   ⟨"block", true, some "body", 8, 12, some 1, []⟩,
   ⟨"pass_statement", true, none, 8, 12, some 8, []⟩,
   ⟨"pass", false, none, 8, 12, some 9, []⟩] false

/-- Three files, each of which imports from the next one. -/
def files : List SourceFile :=
  [⟨"a.py", source, tree⟩, ⟨"b.py", middleSource, middleTree⟩, ⟨"c.py", lastSource, lastTree⟩]

/-- An engine that knows the trees. -/
def engine : Engine :=
  .knowing .python files

/-- A request for the three files. -/
def request : Request :=
  { filePaths := ["a.py", "b.py", "c.py"]
    fileContents := ⟨[("a.py", source), ("b.py", middleSource), ("c.py", lastSource)]⟩ }

/-- What is found: two bases, one of them imported, and a call along both imports. -/
def outline : Outline where
  project := "project"
  visible := ["a.py", "b.py", "c.py"]
  definitions :=
    [("a.py", .importDecl, "import:a.py:b:0:17"),
     ("a.py", .classDecl, "class:a.py:L:18:33"),
     ("a.py", .classDecl, "class:a.py:D:34:48"),
     ("b.py", .importDecl, "import:b.py:c:0:15"),
     ("b.py", .classDecl, "class:b.py:B:16:28"),
     ("c.py", .functionDecl, "function:c.py:f:0:12")]
  imports := [("a.py", "b.py"), ("b.py", "c.py")]
  heritage :=
    [⟨.inherits, "class:a.py:L:18:33", "class:b.py:B:16:28"⟩,
     ⟨.inherits, "class:a.py:D:34:48", "class:a.py:L:18:33"⟩]
  calls := [("a.py", .imported, some "function:c.py:f:0:12")]

/-- The identifiers of project, files and definitions. -/
def ids : OrderedMap String String :=
  ⟨[(Identifier.structureText .project "project", "a98b5e2730c1d113f758df8d"),
    (Identifier.structureText .file "a.py", "4a9f4aa122b45024abcedc57"),
    (Identifier.structureText .file "b.py", "8bd7018044bacf66a678dd45"),
    (Identifier.structureText .file "c.py", "c9a984c190106de507d88194"),
    ("import:a.py:b:0:17", "3510ce07c0086594ac97d3d5"),
    ("class:a.py:L:18:33", "be3d6e6b670c031b702c64d0"),
    ("class:a.py:D:34:48", "cc7f57b10a2e6cf6a05dd856"),
    ("import:b.py:c:0:15", "5a304111350114334b191e18"),
    ("class:b.py:B:16:28", "d2ab917fc66b1adbaa50c5e7"),
    ("function:c.py:f:0:12", "2a2389567fc430abbc0f4b38")]⟩

/-- The digests of the texts of the sample start differently. -/
theorem separates : outline.Separates ids := by
  have hids : ∀ x ∈ ids.toList, Identifier.numberDigits x.1 = x.2.toList := by
    repeat refine List.forall_mem_cons.mpr ⟨by decide +kernel, ?_⟩
    exact List.forall_mem_nil _
  have hedges : List.Forall₂ (fun x y => Identifier.edgeDigits ids x = y.toList) outline.edges
      ["63d1", "7a79", "f7ea", "cc82", "2490", "3a2e", "c700", "f46d", "e07f", "77f7", "046d",
        "5607", "7356", "58ef", "1daa", "8a3e"] := by
    repeat refine .cons (by decide +kernel) ?_
    exact .nil
  exact .of_forall₂ hids hedges (by decide +kernel) (by decide +kernel) (by decide +kernel)

/-- The digests of the sources start differently. -/
theorem nodup_contents : (files.map fun f => Identifier.firstDigits f.content).Nodup := by
  simp only [Identifier.firstDigits_eq]
  decide +kernel

/-- What is found in the three files. -/
theorem outlines : (Plan.ofRequest {} request).toOption.any
    (fun plan => decide (engine.Outlines .python request files outline plan)) = true := by
  decide +kernel

/-- A run of the sample returns with its outline. -/
theorem exists_outlined : ∃ s os, Stages.Outlined s os engine .python files request outline :=
  Engine.exists_outlined nodup_contents outlines (by decide) separates

/-- Definitions with the same text are in the same file. -/
theorem filePath_eq_of_idSource_eq :
    ∀ d ∈ engine.definitions request {} (Cache.ofSettings {}),
      ∀ d' ∈ engine.definitions request {} (Cache.ofSettings {}), d.idSource = d'.idSource →
        d.filePath = d'.filePath := by
  obtain ⟨s, os, h⟩ := exists_outlined
  have hdefinitions : engine.definitions request {} (Cache.ofSettings {}) = s.definitions :=
    h.definitions_eq
  rw [hdefinitions]
  exact h.filePath_eq_of_idSource_eq

end ChainSample

/-- The call of the sample leads along two imports. -/
theorem Engine.callEdge_justified_sample :
    ∃ res, (ChainSample.engine.run ChainSample.request {} (Cache.ofSettings {})).1 = .ok res ∧
      ∃ r ∈ res.store.graph.relationships, r.kind = .calls ∧
        res.store.graph.IsCallable "c.py" r.target ∧
        r.properties.get? "callType" = some (.text "ImportResolved") ∧
        ∃ fileId targetId n, res.store.graph.IsFile "a.py" fileId ∧
          res.store.graph.IsFile "c.py" targetId ∧
          Steps res.store.graph.ImportEdge n fileId targetId := by
  obtain ⟨s, os, h⟩ := ChainSample.exists_outlined
  obtain ⟨after, hrun⟩ := h.returns
  have hcall : ("a.py", .imported, some "function:c.py:f:0:12") ∈
      (s.outline ChainSample.engine).calls := by
    rw [h.outline]
    exact List.mem_singleton_self _
  obtain ⟨c, hc, hpath, -, htext⟩ := Stages.exists_of_mem_calls_outline hcall
  obtain ⟨d, hd, htext⟩ := Option.map_eq_some_iff.mp htext
  obtain ⟨r, hr, hkind, d', hd', hsource, htarget, -⟩ :=
    h.complete.exists_call h.injective hc (hd ▸ rfl)
  obtain rfl := Option.some.inj (hd.symm.trans hd')
  -- the ends of the relationship are of the first file and of the last one
  have hends := h.complete.isFile_or_isCallable_source h.injective h.filePath_eq_of_idSource_eq hc
    hsource
  obtain ⟨hcallable, -, -⟩ := h.complete.call_cases h.injective hc hd
  have hlast : d.filePath = "c.py" := by
    obtain ⟨path, f, hf, hdef⟩ :=
      h.complete.exists_of_mem_entered (h.complete.target_mem_entered hc hd)
    have hmem : ("c.py", .functionDecl, d.idSource) ∈ ChainSample.outline.definitions := by
      rw [htext]
      decide
    exact h.filePath_eq (List.mem_flatMap.mpr ⟨_, hf, hdef⟩) hmem
  rw [hpath] at hends
  rw [htarget, hlast] at hcallable
  obtain ⟨path, target, fileId, targetId, hfrom, hto, hfile, hother, hcases⟩ :=
    Engine.callEdge_justified _ _ _ (Cache.reachable_ofSettings {}) hrun h.injOn_hashed
      ChainSample.filePath_eq_of_idSource_eq hr hkind
  obtain rfl : path = "a.py" := Graph.path_unique hfrom hends
  obtain rfl : target = "c.py" := Graph.path_unique (.inr hto) (.inr hcallable)
  rcases hcases with ⟨-, hsame⟩ | ⟨himported, n, -, -, hsteps⟩
  · exact absurd hsame (by decide)
  · exact ⟨_, hrun, r, hr, hkind, hto, himported, fileId, targetId, n, hfile, hother, hsteps⟩

end CodeGraph
