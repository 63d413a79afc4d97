import CodeGraph.Proofs.Call
import CodeGraph.Proofs.Parsing
import CodeGraph.Proofs.Resolution
import CodeGraph.Proofs.Run

/-!
# The stages of a run that returns

A run that returns has a plan, a skeleton, a finished parsing stage and links. Here is what its graph
and registry are in terms of the outcomes of its files, and which texts are behind the identifiers
that it asks for.

## Main definitions

* `Stages`, `Engine.stages?`: a run up to the end of its parsing stage.
* `Stages.offered`, `Stages.graph`: the relationships that the run offers, and its graph.
* `Engine.hashed`: the texts behind the identifiers of a run.
* `Stages.Complete`: a finished parsing stage in terms of the outcomes of its files.

## Main results

* `Engine.exists_complete`: a run that returns has complete stages, whatever ran before.
* `Stages.Complete.keeps`: the relationships of the graph are what is kept of the offers.
* `Stages.Complete.holds`: the registry answers from the visible files and entered definitions.
* `Stages.calls_links`: the calls are resolved between the nodes that parsing has left.
-/

namespace CodeGraph

open Inventory (Entry entriesOf entered)

/-! ### Genuine parse results -/

/-- A parse result belongs to a version of a file. -/
structure Cache.Genuine (key : Cache.Source) (f : ParsedFile) : Prop where
  path : f.filePath = key.path
  contentHash : f.contentHash = key.contentHash
  authentic : f.Authentic

theorem Cache.faithful_genuine : Cache.Faithful Cache.Genuine :=
  ⟨fun _ _ h => h.path, fun _ _ h => h.contentHash⟩

namespace Engine

variable {e : Engine} {s : Selection} {stalled : List String} {path content : String}

/-- What is parsed is genuine. -/
theorem genuine_of_parse {l : Language} {f : ParsedFile} {tree : Option SyntaxTree}
    (h : e.parse stalled l path content = .ok (f, tree)) :
    Cache.Genuine ⟨path, Digest.ofText content⟩ f := by
  obtain ⟨t, -, rfl⟩ := exists_tree_of_parse h
  exact ⟨rfl, rfl, ParsedFile.authentic_extract l e.broken path content t⟩

/-- Every run parses genuine results. -/
theorem admits_genuine (e : Engine) (request : Request) (i : Interruptions) :
    e.Admits request i Cache.Genuine :=
  fun _ _ _ _ _ _ _ h => genuine_of_parse h

/-- What is harvested from a configuration file is genuine. -/
theorem genuine_of_handleConfig {f : ParsedFile} (h : handleConfig path content = .ok (.parsed f)) :
    Cache.Genuine ⟨path, Digest.ofText content⟩ f := by
  have hcases := configures_handleConfig path content
  rw [h] at hcases
  cases hcases with
  | harvested hds =>
    refine ⟨rfl, rfl, fun d hd => (Manifest.harvested_of_harvest hds d hd).authentic,
      fun site hsite => ?_, fun site hsite => ?_⟩
    · cases hsite
    · cases hsite

/-- A parse result that needs no cache is harvested, or parsed in the language of its path. -/
theorem outcome_cases {o : FileOutcome} (h : e.outcome s stalled path content = .ok o) :
    o.path = path ∧ ∀ f, o.parsed? = some f →
      s.classify path = .config ∧ handleConfig path content = .ok (.parsed f) ∨
      ∃ l tree, IsParsedIn s path l ∧ e.parse stalled l path content = .ok (f, tree) := by
  obtain ⟨r, hr, rfl⟩ := exists_of_outcome_eq_ok h
  refine ⟨rfl, fun f hf => ?_⟩
  obtain rfl : r = .parsed f := by
    cases r with
    | parsed g => exact congrArg FileResult.parsed (Option.some.inj hf)
    | failed failure => cases hf
    | skipped reason => cases hf
  cases hr with
  | config hconfig hr => exact .inl ⟨hconfig, hr⟩
  | parsed hl hparse => exact .inr ⟨_, _, hl, hparse⟩

/-- What becomes of a file without a cache is about this file, and genuine if it is parsed. -/
theorem genuine_of_outcome {o : FileOutcome} (h : e.outcome s stalled path content = .ok o) :
    o.path = path ∧ ∀ f, o.parsed? = some f → Cache.Genuine ⟨path, Digest.ofText content⟩ f := by
  obtain ⟨hpath, hcases⟩ := outcome_cases h
  refine ⟨hpath, fun f hf => ?_⟩
  rcases hcases f hf with ⟨-, hconfig⟩ | ⟨l, tree, -, hparse⟩
  · exact genuine_of_handleConfig hconfig
  · exact genuine_of_parse hparse

/-- What a file yields is about this file, and genuine if it is parsed. -/
theorem genuine_of_yields {P : Cache.Source → ParsedFile → Prop}
    (hP : ∀ key f, P key f → Cache.Genuine key f) {o : FileOutcome}
    (h : e.Yields P s stalled path content (.ok o)) :
    o.path = path ∧ ∀ f, o.parsed? = some f → Cache.Genuine ⟨path, Digest.ofText content⟩ f := by
  rcases h with houtcome | ⟨f, l, hf, -, -, hr⟩
  · exact genuine_of_outcome houtcome.symm
  · obtain rfl := Except.ok.inj hr
    refine ⟨rfl, fun g hg => ?_⟩
    obtain rfl : f = g := Option.some.inj hg
    exact hP _ f hf

end Engine

/-- Whatever was ingested before, a cache holds genuine results. -/
theorem Cache.Reachable.sound {cache : Cache} (h : cache.Reachable) :
    cache.Sound Cache.Genuine := by
  obtain ⟨settings, jobs, rfl⟩ := h
  exact ((Cache.Sound.empty _ _ _ _ _).afterJobs Cache.faithful_genuine fun job _ =>
    job.engine.admits_genuine _ _).1

/-! ### Stages -/

/-- A run up to the end of its parsing stage. -/
structure Stages where
  request : Request
  plan : Plan
  parsing : Parsing

/-- The stages of a run that gets to the end of its parsing stage. -/
def Engine.stages? (e : Engine) (request : Request) (i : Interruptions) (cache : Cache) :
    Option Stages :=
  match Plan.ofRequest e.settings request with
  | .error _ => none
  | .ok plan =>
    match Engine.begun request plan i.cancelAfter with
    | .error _ => none
    | .ok (c, checks) =>
      match e.handleBatches plan.selection i.stalled c.fileIds request.fileContents
          (batches e.settings.batchSize plan.pending) checks
          (Engine.beforeParsing request plan c) cache with
      | (.error _, _) => none
      | (.ok (parsing, _), _) => some { request, plan, parsing }

namespace Stages

variable (s : Stages) (e : Engine)

/-- The skeleton. -/
def skeleton : Containment :=
  Engine.skeletonOf s.request s.plan

/-- The directories that are packages. -/
def packages : List String :=
  packageDirectories s.plan.visible

/-- The links. -/
def links : Links :=
  e.links s.skeleton s.parsing

/-- The graph of the run. -/
def graph : Graph :=
  (s.links e).graph

/-- The parsed files with their paths. -/
def files : List (String × ParsedFile) :=
  s.parsing.parsed.toList

/-- The definitions of the parsed files. -/
def definitions : List Definition :=
  s.files.flatMap fun f => f.2.definitions

/-- The entries of the parsed files. -/
def entries : List Entry :=
  s.files.flatMap fun f => entriesOf (Containment.fileId f.1) f.2.definitions

/-- The entries under new identifiers. -/
def entered : List Entry :=
  Inventory.entered s.skeleton.graph.ids s.entries

/-- The relationships that are offered before resolution. -/
def heldRelationships : List Relationship :=
  (Containment.offers s.request.projectName s.plan.visible).flatMap Prod.snd
    ++ s.entered.flatMap Entry.links

/-- The relationships that resolution offers. -/
def resolvedRelationships : List Relationship :=
  (s.links e).imports.relationships s.skeleton.fileIds
    ++ (s.links e).heritage.relationships
    ++ (s.links e).calls.relationships

/-- All relationships that are offered. -/
def offered : List Relationship :=
  s.heldRelationships ++ s.resolvedRelationships e

/-- The texts behind the identifiers of project, folders and files. -/
def structureTexts : List String :=
  Identifier.structureText .project s.request.projectName
    :: (s.plan.visible.flatMap Path.folders).map (fun d =>
      Identifier.structureText (Containment.folderNode s.packages d).label d)
    ++ s.plan.visible.map (Identifier.structureText .file)

/-- The texts behind all identifiers that are asked for. -/
def texts : List String :=
  s.structureTexts ++ s.definitions.map Definition.idSource
    ++ (s.offered e).map Relationship.idSource

end Stages

/-- The texts that a run hashes to get its identifiers. -/
def Engine.hashed (e : Engine) (request : Request) (i : Interruptions) (cache : Cache) :
    List String :=
  ((e.stages? request i cache).map fun s => s.texts e).getD []

namespace Stages

/-! ### Stages in terms of outcomes -/

/-- A finished parsing stage in terms of the outcomes of its files. -/
structure Complete (s : Stages) (os : List FileOutcome) : Prop where
  nodup : (s.plan.files.map Prod.fst).Nodup
  paths : os.map FileOutcome.path = s.plan.pending
  genuine : ∀ o ∈ os, ∀ f, o.parsed? = some f → f.filePath = o.path ∧ f.Authentic
  parsing : s.parsing =
    os.foldl (Parsing.write s.skeleton.fileIds s.request.fileContents)
      (Engine.beforeParsing s.request s.plan s.skeleton)

end Stages

/-- What is related to a list comes from one of its items. -/
theorem exists_of_mem_forall₂ {α β : Type} {R : α → β → Prop} {as : List α} {bs : List β}
    (h : List.Forall₂ R as bs) {b : β} (hb : b ∈ bs) : ∃ a ∈ as, R a b := by
  induction h with
  | nil => cases hb
  | cons hab _ ih =>
    rcases List.mem_cons.mp hb with rfl | hmem
    · exact ⟨_, List.mem_cons_self, hab⟩
    · obtain ⟨a, ha, hr⟩ := ih hmem
      exact ⟨a, List.mem_cons_of_mem _ ha, hr⟩

/-- A run that returns has complete stages of what its files yield. -/
theorem Engine.exists_complete_yields {P : Cache.Source → ParsedFile → Prop} {e : Engine}
    {request : Request} {i : Interruptions} {cache : Cache} {res : IngestResult}
    (hc : cache.Sound P) (hP : ∀ key f, P key f → Cache.Genuine key f)
    (hnew : e.Admits request i P) (h : (e.run request i cache).1 = .ok res) :
    ∃ s os after, e.stages? request i cache = some s ∧ s.request = request ∧
      Plan.ofRequest e.settings request = .ok s.plan ∧ s.Complete os ∧
      List.Forall₂ (fun path o => e.Yields P s.plan.selection i.stalled path
        (request.fileContents.getD path "") (.ok o)) s.plan.pending os ∧
      res = e.finish s.skeleton s.parsing cache after := by
  have hfaithful : Cache.Faithful P :=
    ⟨fun key f hf => (hP key f hf).path, fun key f hf => (hP key f hf).contentHash⟩
  obtain ⟨plan, os, p, after, hplan, ⟨checks, left, hbegun, hhandle⟩, hyields, hp, hres⟩ :=
    Engine.run_eq_ok hc hfaithful hnew h
  refine ⟨⟨request, plan, p⟩, os, after, ?_, rfl, hplan, ?_, hyields, hres⟩
  · simp only [Engine.stages?, hplan, hbegun, hhandle]
  · have hgenuine := hyields.imp fun path o hy => Engine.genuine_of_yields hP hy
    refine ⟨Plan.nodup_of_ofRequest hplan, ?_, fun o ho f hf => ?_, hp⟩
    · have hpaths : List.Forall₂ Eq plan.pending (os.map FileOutcome.path) := by
        rw [List.forall₂_map_right_iff]
        exact hgenuine.imp fun path o ho => ho.1.symm
      exact (List.forall₂_eq_eq_eq ▸ hpaths).symm
    · obtain ⟨path, -, hpath, hall⟩ := exists_of_mem_forall₂ hgenuine ho
      have hg := hall f hf
      exact ⟨hg.path.trans hpath.symm, hg.authentic⟩

/-- A run that returns has complete stages, which its result is made of. -/
theorem Engine.exists_complete {e : Engine} {request : Request} {i : Interruptions} {cache : Cache}
    {res : IngestResult} (hc : cache.Sound Cache.Genuine)
    (h : (e.run request i cache).1 = .ok res) :
    ∃ s os after, e.stages? request i cache = some s ∧ s.request = request ∧
      Plan.ofRequest e.settings request = .ok s.plan ∧ s.Complete os ∧
      res = e.finish s.skeleton s.parsing cache after := by
  obtain ⟨s, os, after, hstages, hrequest, hplan, hs, -, hres⟩ :=
    Engine.exists_complete_yields hc (fun _ _ hf => hf) (e.admits_genuine request i) h
  exact ⟨s, os, after, hstages, hrequest, hplan, hs, hres⟩

namespace Stages

variable {s : Stages} {os : List FileOutcome}

/-! ### Files and entries -/

/-- The files with identifiers are the visible ones. -/
theorem get?_fileIds (s : Stages) (path : String) :
    s.skeleton.fileIds.get? path =
      if path ∈ s.plan.visible then some (Containment.fileId path) else none :=
  Containment.get?_fileIds_build _ _ _ path

/-- The identifier of a visible file. -/
theorem getD_fileIds {path : String} (hp : path ∈ s.plan.visible) :
    s.skeleton.fileIds.getD path "" = Containment.fileId path := by
  rw [OrderedMap.getD, get?_fileIds, if_pos hp, Option.getD_some]

/-- The parsing stage before its first file. -/
theorem beforeParsing_eq (s : Stages) :
    Engine.beforeParsing s.request s.plan s.skeleton =
      { inventory :=
          { graph := s.skeleton.graph.describeAll (Parsing.excludedDescriptions s.skeleton.fileIds
              s.request.fileContents s.plan.excluded)
            registry := s.plan.visible.foldl Registry.registerFile Registry.empty }
        skipped := (s.plan.excluded.map (·.2.code)).foldl OrderedMap.increment ∅ } := by
  rw [Engine.beforeParsing, Parsing.foldl_writeExcluded]

namespace Complete

/-- The file of an outcome has a node. -/
theorem mem_visible (h : s.Complete os) {o : FileOutcome} (ho : o ∈ os) :
    o.path ∈ s.plan.visible := by
  refine Plan.mem_visible_of_mem_pending ?_
  rw [← h.paths]
  exact List.mem_map_of_mem ho

/-- What the outcomes leave behind. -/
theorem written (h : s.Complete os) :
    Parsing.Written s.skeleton.fileIds (Engine.beforeParsing s.request s.plan s.skeleton)
      s.parsing os := by
  rw [h.parsing]
  exact Parsing.written_foldl _ _ _ os

/-- The paths of the parsed files are different. -/
theorem nodup_parsed (h : s.Complete os) :
    ((os.filterMap FileOutcome.parsedEntry?).map Prod.fst).Nodup := by
  have hpending : (os.map FileOutcome.path).Nodup := h.paths ▸ Plan.nodup_pending h.nodup
  have hsub : ∀ os : List FileOutcome,
      ((os.filterMap FileOutcome.parsedEntry?).map Prod.fst).Sublist
        (os.map FileOutcome.path) := by
    intro os
    induction os with
    | nil => exact List.Sublist.refl _
    | cons o os ih =>
      rw [List.filterMap_cons, List.map_cons]
      cases hparsed : o.parsed? with
      | none =>
        simp only [FileOutcome.parsedEntry?, hparsed, Option.map_none]
        exact ih.cons _
      | some f =>
        simp only [FileOutcome.parsedEntry?, hparsed, Option.map_some, List.map_cons]
        exact ih.cons_cons _
  exact hpending.sublist (hsub os)

/-- The parsed files are those of the outcomes, in order. -/
theorem parsed_eq (h : s.Complete os) :
    s.parsing.parsed = ⟨os.filterMap FileOutcome.parsedEntry?⟩ := by
  rw [h.written.parsed, beforeParsing_eq]
  exact OrderedMap.ofList_eq_of_nodup h.nodup_parsed

/-- The paths of the parsed files are different. -/
theorem nodup_keys (h : s.Complete os) : s.parsing.parsed.keys.Nodup := by
  rw [h.parsed_eq]
  exact h.nodup_parsed

/-- A parsed file comes from an outcome. -/
theorem exists_outcome (h : s.Complete os) {path : String} {f : ParsedFile}
    (hf : (path, f) ∈ s.files) : ∃ o ∈ os, o.path = path ∧ o.parsed? = some f := by
  rw [files, h.parsed_eq] at hf
  obtain ⟨o, ho, hparsed⟩ := List.mem_filterMap.mp hf
  obtain ⟨g, hg, heq⟩ := Option.map_eq_some_iff.mp hparsed
  obtain ⟨rfl, rfl⟩ := Prod.mk.inj heq
  exact ⟨o, ho, rfl, hg⟩

/-- A parsed file has a node and belongs to its path. -/
theorem exists_of_mem_files (h : s.Complete os) {path : String} {f : ParsedFile}
    (hf : (path, f) ∈ s.files) :
    path ∈ s.plan.visible ∧ f.filePath = path ∧ f.Authentic := by
  obtain ⟨o, ho, rfl, hparsed⟩ := h.exists_outcome hf
  obtain ⟨hpath, hauth⟩ := h.genuine o ho f hparsed
  exact ⟨h.mem_visible ho, hpath, hauth⟩

/-- The entries of the parsed files are what the outcomes offer. -/
theorem entries_eq (h : s.Complete os) :
    s.entries = os.flatMap (FileOutcome.entries s.skeleton.fileIds) := by
  rw [entries, files, h.parsed_eq]
  have hgeneral : ∀ os : List FileOutcome, (∀ o ∈ os, o.path ∈ s.plan.visible) →
      (os.filterMap FileOutcome.parsedEntry?).flatMap
        (fun f => entriesOf (Containment.fileId f.1) f.2.definitions) =
      os.flatMap (FileOutcome.entries s.skeleton.fileIds) := by
    intro os hos
    induction os with
    | nil => rfl
    | cons o os ih =>
      have hrest := ih fun o' ho' => hos o' (List.mem_cons_of_mem o ho')
      rw [List.filterMap_cons, List.flatMap_cons, ← hrest]
      cases hparsed : o.parsed? with
      | none => simp [FileOutcome.parsedEntry?, FileOutcome.entries, hparsed]
      | some f =>
        simp [FileOutcome.parsedEntry?, FileOutcome.entries, hparsed,
          getD_fileIds (hos o List.mem_cons_self)]
  exact hgeneral os fun o ho => h.mem_visible ho

/-- The entered definitions are those that the outcomes enter. -/
theorem entered_eq (h : s.Complete os) :
    Inventory.entered (Engine.beforeParsing s.request s.plan s.skeleton).inventory.graph.ids
      (os.flatMap (FileOutcome.entries s.skeleton.fileIds)) = s.entered := by
  rw [entered, h.entries_eq, beforeParsing_eq, Graph.ids_describeAll]

/-- An entry is a definition of a parsed file, among the types of that file. -/
theorem exists_of_mem_entries (h : s.Complete os) {x : Entry} (hx : x ∈ s.entries) :
    ∃ path f, (path, f) ∈ s.files ∧ x.fileId = Containment.fileId path ∧
      x.definition ∈ f.definitions ∧ x.types = f.definitions.filter (·.kind.isType) ∧
      x.definition.Authentic path := by
  obtain ⟨⟨path, f⟩, hf, hx⟩ := List.mem_flatMap.mp hx
  obtain ⟨d, hd, rfl⟩ := List.mem_map.mp hx
  obtain ⟨-, hpath, hauth⟩ := h.exists_of_mem_files hf
  exact ⟨path, f, hf, rfl, hd, rfl, hpath ▸ hauth.definitions d hd⟩

/-- An entered definition belongs to a visible file. -/
theorem filePath_of_mem_entered (h : s.Complete os) :
    ∀ d ∈ s.entered.map Entry.definition, d.filePath ∈ s.plan.visible := by
  intro d hd
  obtain ⟨x, hx, rfl⟩ := List.mem_map.mp hd
  obtain ⟨path, f, hf, -, -, -, hauth⟩ := h.exists_of_mem_entries (mem_of_mem_fresh hx).1
  rw [hauth.filePath]
  exact (h.exists_of_mem_files hf).1

/-! ### Registry, relationships and nodes -/

/-- The registry answers from the visible files and the entered definitions. -/
theorem holds (h : s.Complete os) :
    s.parsing.inventory.registry.Holds s.plan.visible (s.entered.map Entry.definition) := by
  have hfiles : (s.plan.visible.foldl Registry.registerFile Registry.empty).Holds s.plan.visible
      [] := by
    have hnodup : ([] ++ s.plan.visible).Nodup := Plan.nodup_visible h.nodup
    exact Registry.Holds.empty.foldl_registerFile hnodup
  rw [h.written.registry, h.entered_eq, beforeParsing_eq]
  exact hfiles.foldl_addDefinition h.filePath_of_mem_entered

/-- Exactly the identifiers of the skeleton and of all definitions are taken. -/
theorem mem_ids_parsing (h : s.Complete os) (id : String) :
    id ∈ s.parsing.inventory.graph.ids ↔
      id ∈ s.skeleton.graph.ids ∨ id ∈ s.entries.map Entry.id := by
  rw [h.written.ids, beforeParsing_eq, Graph.ids_describeAll, h.entries_eq]

/-- The relationships of the skeleton and the entered definitions. -/
theorem keeps_parsing (h : s.Complete os) :
    s.parsing.inventory.graph.Keeps s.heldRelationships := by
  have hskeleton : s.skeleton.graph.relationships = fresh Relationship.id []
      ((Containment.offers s.request.projectName s.plan.visible).flatMap Prod.snd) := by
    rw [skeleton, Engine.skeletonOf, Containment.graph_build, Graph.relationships_foldl_attach]
    rfl
  rw [Graph.Keeps, h.written.relationships, h.entered_eq, beforeParsing_eq, heldRelationships,
    fresh_append, Graph.relationships_describeAll, Graph.linkIds_describeAll, hskeleton]
  congr 1
  refine fresh_congr (fun id => ?_) _
  rw [Graph.linkIds, hskeleton]
  exact (mem_append_keys_fresh Relationship.id [] _ id).trans List.mem_append.symm

end Complete

end Stages

namespace Stages

variable {s : Stages} {os : List FileOutcome} {e : Engine}

/-- The relationships of the run are inserted one after the other. -/
theorem graph_eq (s : Stages) (e : Engine) :
    s.graph e = (s.links e).calls.relationships.foldl Graph.insertRelationship
      ((s.links e).heritage.relationships.foldl Graph.insertRelationship
        (((s.links e).imports.relationships s.skeleton.fileIds).foldl Graph.insertRelationship
          s.parsing.inventory.graph)) :=
  Graph.fst_addRelationships _ _

/-- Resolution adds no nodes. -/
theorem nodes_graph (s : Stages) (e : Engine) :
    (s.graph e).nodes = s.parsing.inventory.graph.nodes := by
  simp only [graph_eq, Graph.nodes_foldl_insertRelationship]

/-- Resolution takes no identifiers of nodes. -/
theorem ids_graph (s : Stages) (e : Engine) :
    (s.graph e).ids = s.parsing.inventory.graph.ids := by
  rw [Graph.ids, nodes_graph, Graph.ids]

/-- The relationships of the graph are what is kept of the offers. -/
theorem Complete.keeps (h : s.Complete os) (e : Engine) : (s.graph e).Keeps (s.offered e) := by
  have himports := h.keeps_parsing.foldl_insertRelationship
    ((s.links e).imports.relationships s.skeleton.fileIds)
  have hheritage := himports.foldl_insertRelationship (s.links e).heritage.relationships
  have hcalls := hheritage.foldl_insertRelationship (s.links e).calls.relationships
  rw [graph_eq, offered, resolvedRelationships]
  simpa only [List.append_assoc] using hcalls

/-- The context in which calls are classified. -/
def callContext (s : Stages) (e : Engine) : CallContext :=
  { registry := s.parsing.inventory.registry
    imports := (s.links e).imports.map
    extraBuiltins := e.settings.extraBuiltins
    maxHops := e.settings.maxReexportDepth }

/-- The calls of the run are resolved between the nodes that parsing has left. -/
theorem calls_links (s : Stages) (e : Engine) :
    (s.links e).calls = Calls.ofFiles (s.callContext e) s.parsing.inventory.graph
      s.skeleton.fileIds s.parsing.parsed := by
  have hids : ∀ id, id ∈ ((s.links e).heritage.addTo ((s.links e).imports.addTo
      s.skeleton.fileIds s.parsing.inventory.graph)).ids ↔
        id ∈ s.parsing.inventory.graph.ids := by
    intro id
    rw [Heritage.addTo, Imports.addTo, Graph.ids_foldl_insertRelationship,
      Graph.ids_foldl_insertRelationship]
  exact Calls.ofFiles_eq_of_hasNode (Graph.hasNode_eq_of_ids_eq hids) rfl _ _

/-- The calls of the run are the classified calls of the parsed files. -/
theorem sites_links (s : Stages) (e : Engine) :
    (s.links e).calls.sites = (s.callContext e).classified s.parsing.parsed := by
  rw [calls_links, Calls.sites_ofFiles]

/-- A relationship of calls comes from a classified call. -/
theorem exists_of_mem_calls (s : Stages) {r : Relationship}
    (hr : r ∈ (s.links e).calls.relationships) :
    ∃ edge : CallEdge, r = .between .calls r.source r.target edge.properties ∧
      Calls.Stems s.parsing.inventory.graph s.skeleton.fileIds (s.links e).calls.sites
        (r.source, r.target) edge := by
  rw [calls_links] at hr ⊢
  exact (Calls.joined_ofFiles _ _ _ _).exists_of_mem_relationships hr

/-- A classified call is a call site of a parsed file. -/
theorem exists_of_mem_sites {c : ClassifiedCall} (hc : c ∈ (s.links e).calls.sites) :
    ∃ f, (c.path, f) ∈ s.files ∧ c.site ∈ f.callSites ∧
      c.state = ((s.callContext e).classify f.language c.site).1 ∧
      c.target = ((s.callContext e).classify f.language c.site).2 := by
  rw [sites_links] at hc
  obtain ⟨⟨path, f⟩, hf, hc⟩ := List.mem_flatMap.mp hc
  obtain ⟨site, hsite, rfl⟩ := List.mem_map.mp hc
  exact ⟨f, ParsedFiles.mem_sorted.mp hf, hsite, rfl, rfl⟩

end Stages

end CodeGraph
