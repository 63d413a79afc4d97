import CodeGraph.Links
import CodeGraph.Proofs.Fresh
import CodeGraph.Proofs.Matching

/-!
# Resolution and the order of registration

A registry lists files and definitions in order of arrival, but resolution never sees that order:
files are sorted before one of them is chosen, and definitions are only asked for file by file. Two
registries that got the same files, and the same definitions of each file, resolve everything alike.

## Main definitions

* `Registry.Alike`: two registries give the same answers to resolution.

## Main results

* `Registry.Holds.alike`: registries that differ in the order of files are alike.
* `Imports.ofFiles_congr`, `Heritage.ofFiles_congr`, `Calls.ofFiles_congr`: alike registries resolve
  the same parsed files in the same way.
-/

namespace CodeGraph

/-- The parsed files in order of their paths do not depend on the order of parsing. -/
theorem ParsedFiles.sorted_eq_of_perm {files files' : ParsedFiles}
    (h : files.toList.Perm files'.toList) (hnodup : files.keys.Nodup) :
    ParsedFiles.sorted files = ParsedFiles.sorted files' :=
  Sorting.sort_eq_of_perm Prod.fst h fun _ ha _ hb heq => List.inj_on_of_nodup_map hnodup ha hb heq

/-! ### Registries -/

namespace Registry

/-- Two registries give the same answers to all that resolution asks. -/
structure Alike (r r' : Registry) : Prop where
  hasFile : r.hasFile = r'.hasFile
  filesEndingWith : r.filesEndingWith = r'.filesEndingWith
  filesWithStem : r.filesWithStem = r'.filesWithStem
  packageMembers : r.packageMembers = r'.packageMembers
  inFile : r.inFile = r'.inFile
  qualified : ∀ name path, (r.qualified name).filter (·.filePath = path) =
    (r'.qualified name).filter (·.filePath = path)

variable {r r' : Registry}

/-- Registries with the same files and the same definitions of each file are alike. -/
theorem Holds.alike {files files' : List String} {ds ds' : List Definition}
    (h : r.Holds files ds) (h' : r'.Holds files' ds') (hfiles : files.Perm files')
    (hds : ∀ path, ds.filter (·.filePath = path) = ds'.filter (·.filePath = path)) :
    r.Alike r' := by
  constructor
  case hasFile =>
    funext path
    rw [Bool.eq_iff_iff, h.hasFile_iff, h'.hasFile_iff, hfiles.mem_iff]
  case filesEndingWith =>
    funext suffix
    rw [filesEndingWith, filesEndingWith, h.bySuffix, h'.bySuffix]
    exact Text.sort_eq_of_perm (hfiles.flatMap_right _)
  case filesWithStem =>
    funext stem
    rw [filesWithStem, filesWithStem, h.byStem, h'.byStem]
    exact Text.sort_eq_of_perm (hfiles.filter _)
  case packageMembers =>
    funext importer directory
    rw [packageMembers, packageMembers, h.files, h'.files]
    exact Text.sort_eq_of_perm (hfiles.filter _)
  case inFile =>
    funext path
    rw [h.inFile, h'.inFile, hds]
  case qualified =>
    intro name path
    rw [h.qualified, h'.qualified, List.filter_filter, List.filter_filter]
    simp only [Bool.and_comm (decide (_ = path))]
    rw [← List.filter_filter, ← List.filter_filter, hds]

namespace Alike

/-- Definitions are found by name in the same files. -/
theorem namedIn (h : r.Alike r') : r.namedIn = r'.namedIn := by
  funext path name
  rw [Registry.namedIn, Registry.namedIn, h.inFile]

/-- Candidates mean the same files. -/
theorem resolvePath (h : r.Alike r') (importer : String) (candidates : List String)
    (language : String) (allowBasename : Bool) :
    r.resolvePath importer candidates language allowBasename =
      r'.resolvePath importer candidates language allowBasename :=
  resolvePath_congr (fun _ => by rw [h.hasFile]) (fun _ _ => by rw [h.filesEndingWith])
    fun _ _ => by rw [h.filesWithStem]

/-- Imports of modules have the same targets. -/
theorem resolvePython (h : r.Alike r') : r.resolvePython = r'.resolvePython := by
  have hmodule : r.moduleFile? = r'.moduleFile? := by
    funext importer base
    rw [moduleFile?, moduleFile?, h.hasFile]
  have hsub : r.submodule? = r'.submodule? := by
    funext importer base package name
    simp only [submodule?, hmodule]
  have hnamed : r.namedSubmodule? = r'.namedSubmodule? := by
    funext importer base package n
    simp only [namedSubmodule?, hsub, h.namedIn]
  funext importer spec
  simp only [Registry.resolvePython, h.resolvePath, hnamed]

/-- All imports have the same targets. -/
theorem resolveImport (h : r.Alike r') : r.resolveImport = r'.resolveImport := by
  funext importer language spec
  simp only [Registry.resolveImport, h.resolvePython, resolveJava, resolvePackage, h.packageMembers,
    resolveScript, h.resolvePath]

/-- Types are found by name in the same files. -/
theorem typesIn (h : r.Alike r') : r.typesIn = r'.typesIn := by
  funext path name
  rw [Registry.typesIn, Registry.typesIn, h.namedIn]

end Alike

end Registry

variable {r r' : Registry}

/-! ### Imports and heritage -/

/-- Alike registries resolve the imports of the same files in the same way. -/
theorem Imports.ofFiles_congr (h : r.Alike r') {parsed parsed' : ParsedFiles}
    (hparsed : ParsedFiles.sorted parsed = ParsedFiles.sorted parsed') :
    Imports.ofFiles r parsed = Imports.ofFiles r' parsed' := by
  have hadd : ResolvedFile.addImport r = ResolvedFile.addImport r' := by
    funext language f d
    simp only [ResolvedFile.addImport, h.resolveImport]
  have hfile : ResolvedFile.ofParsed r = ResolvedFile.ofParsed r' := by
    funext path p
    rw [ResolvedFile.ofParsed, ResolvedFile.ofParsed, hadd]
  rw [Imports.ofFiles, Imports.ofFiles, hfile, hparsed]

/-- Relationships of imports only depend on which files have identifiers. -/
theorem Imports.relationships_congr {fileIds fileIds' : OrderedMap String String}
    (h : fileIds.get? = fileIds'.get?) (i : Imports) :
    i.relationships fileIds = i.relationships fileIds' := by
  simp only [Imports.relationships, Imports.relationship?, h]

/-- Alike registries resolve the heritage of the same files in the same way. -/
theorem Heritage.ofFiles_congr (h : r.Alike r') (m : ImportMap) {g g' : Graph}
    (hg : g.hasNode = g'.hasNode) {parsed parsed' : ParsedFiles}
    (hparsed : ParsedFiles.sorted parsed = ParsedFiles.sorted parsed') :
    Heritage.ofFiles r m g parsed = Heritage.ofFiles r' m g' parsed' := by
  have hresolve : Heritage.resolveType r m = Heritage.resolveType r' m := by
    funext path typeName
    simp only [resolveType, throughBinding?, throughNamespace?, throughWildcard?, h.typesIn]
  have hlinks : Heritage.linksOf r m = Heritage.linksOf r' m := by
    funext path d
    rw [linksOf, linksOf, hresolve]
  rw [ofFiles, ofFiles, links, links, hlinks, hg, hparsed]

/-! ### Calls -/

namespace Symbols

/-- Methods are the same, since they are asked for file by file. -/
theorem methodsOf_congr (h : r.Alike r') (m : ImportMap) :
    methodsOf ⟨r, m⟩ = methodsOf ⟨r', m⟩ := by
  have hsplit : ∀ (ds : List Definition) (path : String),
      ds.filter (fun d => decide (d.filePath = path) && d.kind.isCallable) =
        (ds.filter (·.filePath = path)).filter (·.kind.isCallable) := by
    intro ds path
    rw [List.filter_filter]
    simp only [Bool.and_comm]
  funext path className name
  rw [methodsOf, methodsOf, hsplit, hsplit, h.qualified]

/-- What a file itself holds is the same. -/
theorem held?_congr (h : r.Alike r') (m : ImportMap) : held? ⟨r, m⟩ = held? ⟨r', m⟩ := by
  funext path e
  cases e with
  | named name => simp only [held?, callables, h.namedIn]
  | default => simp only [held?, h.inFile]

/-- The search for an export finds and visits the same. -/
theorem search_congr (h : r.Alike r') (m : ImportMap) : search ⟨r, m⟩ = search ⟨r', m⟩ := by
  funext hops
  induction hops with
  | zero =>
    funext visited path e
    simp only [search, held?_congr h]
  | succ hops ih =>
    funext visited path e
    simp only [search, held?_congr h, passedOn, ih]

end Symbols

/-- Alike registries classify calls in the same way. -/
theorem CallContext.classify_congr (h : r.Alike r') (m : ImportMap)
    (extra : OrderedMap String (List String)) (hops : Nat) :
    classify ⟨⟨r, m⟩, extra, hops⟩ = classify ⟨⟨r', m⟩, extra, hops⟩ := by
  have hlookup : Symbols.lookup ⟨r, m⟩ = Symbols.lookup ⟨r', m⟩ := by
    funext hops path e
    rw [Symbols.lookup, Symbols.lookup, Symbols.search_congr h]
  have hclass : Symbols.wildcardClass? ⟨r, m⟩ = Symbols.wildcardClass? ⟨r', m⟩ := by
    funext path name
    simp only [Symbols.wildcardClass?, h.namedIn]
  funext language site
  simp only [classify, isBuiltin, receiverIsImport, throughImports?, importedFunction?,
    importedMember?, memberThrough?, methodThrough?, sameFile?, siblingMethod?, Symbols.follow,
    Symbols.callables, hlookup, hclass, Symbols.methodsOf_congr h, h.namedIn]

/-- The edges of calls only depend on which nodes are there and which files have identifiers. -/
theorem Calls.ofFiles_eq_of_hasNode {g g' : Graph} {fileIds fileIds' : OrderedMap String String}
    (hg : g.hasNode = g'.hasNode) (hids : fileIds.get? = fileIds'.get?) (c : CallContext)
    (parsed : ParsedFiles) : ofFiles c g fileIds parsed = ofFiles c g' fileIds' parsed := by
  have hsource : sourceId? g fileIds = sourceId? g' fileIds' := by
    funext c
    rw [sourceId?, sourceId?, hg, hids]
  have hedge : addEdge g fileIds = addEdge g' fileIds' := by
    funext edges c
    simp only [addEdge, hsource, hg]
  have hadd : add g fileIds = add g' fileIds' := by
    funext calls c
    rw [add, add, hedge]
  rw [ofFiles, ofFiles, hadd]

/-- Alike registries resolve the calls of the same files in the same way. -/
theorem Calls.ofFiles_congr (h : r.Alike r') (m : ImportMap)
    (extra : OrderedMap String (List String)) (hops : Nat) (g : Graph)
    (fileIds : OrderedMap String String) {parsed parsed' : ParsedFiles}
    (hparsed : ParsedFiles.sorted parsed = ParsedFiles.sorted parsed') :
    Calls.ofFiles ⟨⟨r, m⟩, extra, hops⟩ g fileIds parsed =
      Calls.ofFiles ⟨⟨r', m⟩, extra, hops⟩ g fileIds parsed' := by
  rw [ofFiles, ofFiles, CallContext.classified, CallContext.classified,
    CallContext.classify_congr h, hparsed]

end CodeGraph
