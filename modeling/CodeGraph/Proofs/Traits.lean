import CodeGraph.Proofs.Stages

/-!
# What all parse results of a run have in common

A run works with parse results that it finds itself, harvests from configuration files, or takes
from a cache that earlier runs have filled. What all of these have, every parsed file of the run
has.

## Main definitions

* `Engine.Ensures`: what every file that a run parses has.
* `ParsedFile.Specified`: every import of a file says what it imports.
* `SourceTree.Lexical`, `Engine.ReadsNames`: what is assumed of the parser about names.
* `ParsedFile.PlainTypes`: the names of all types of a file are without colons.

## Main results

* `Engine.exists_complete_with`: a run that returns, with what all its parsed files have.
* `Engine.exists_complete_specified`: all imports of a run that returns are specified.
* `Engine.exists_complete_plain`: all types of a run that returns have plain names.
-/

namespace CodeGraph

/-! ### Through cache and configuration files -/

/-- Every file that a run parses has a trait. -/
def Engine.Ensures (e : Engine) (request : Request) (i : Interruptions) (Q : ParsedFile → Prop) :
    Prop :=
  ∀ path content, request.fileContents.get? path = some content → ∀ l f tree,
    e.parse i.stalled l path content = .ok (f, tree) → Q f

/-- A genuine parse result with a trait. -/
def Cache.GenuineWith (Q : ParsedFile → Prop) (key : Cache.Source) (f : ParsedFile) : Prop :=
  Cache.Genuine key f ∧ Q f

variable {Q : ParsedFile → Prop}

/-- A run parses genuine results with the trait. -/
theorem Engine.Ensures.admits {e : Engine} {request : Request} {i : Interruptions}
    (h : e.Ensures request i Q) : e.Admits request i (Cache.GenuineWith Q) :=
  fun path content hcontent l f tree _ hparse =>
    ⟨genuine_of_parse hparse, h path content hcontent l f tree hparse⟩

/-- If earlier runs ensured a trait, the cache holds results with it. -/
theorem Cache.sound_afterJobs_with (settings : Settings) {jobs : List Job}
    (h : ∀ job ∈ jobs, job.engine.Ensures job.request job.interruptions Q) :
    ((Cache.ofSettings settings).afterJobs jobs).Sound (Cache.GenuineWith Q) :=
  ((Cache.Sound.empty _ _ _ _ _).afterJobs
    ⟨fun _ _ hf => hf.1.path, fun _ _ hf => hf.1.contentHash⟩
    fun job hjob => (h job hjob).admits).1

namespace Engine

variable {e : Engine} {request : Request} {i : Interruptions} {cache : Cache} {res : IngestResult}

/-- A run that returns has complete stages, and all its parsed files have the trait. -/
theorem exists_complete_with (hc : cache.Sound (Cache.GenuineWith Q)) (hnew : e.Ensures request i Q)
    (hconfig : ∀ path content f, handleConfig path content = .ok (.parsed f) → Q f)
    (h : (e.run request i cache).1 = .ok res) :
    ∃ s os after, e.stages? request i cache = some s ∧ s.request = request ∧
      Plan.ofRequest e.settings request = .ok s.plan ∧ s.Complete os ∧
      (∀ path f, (path, f) ∈ s.files → Q f) ∧
      res = e.finish s.skeleton s.parsing cache after := by
  obtain ⟨s, os, after, hstages, hrequest, hplan, hs, hyields, hres⟩ :=
    exists_complete_yields hc (fun _ _ hf => hf.1) hnew.admits h
  refine ⟨s, os, after, hstages, hrequest, hplan, hs, fun path f hf => ?_, hres⟩
  rw [Stages.files, hs.parsed_eq] at hf
  obtain ⟨o, ho, hparsed⟩ := List.mem_filterMap.mp hf
  obtain ⟨g, hg, heq⟩ := Option.map_eq_some_iff.mp hparsed
  obtain ⟨-, rfl⟩ := Prod.mk.inj heq
  obtain ⟨path', hpending, hyield⟩ := exists_of_mem_forall₂ hyields ho
  rcases hyield with houtcome | ⟨f, l, hcached, -, -, heq⟩
  · obtain ⟨content, hcontent⟩ := exists_content_of_mem_pending hplan hpending
    rcases (outcome_cases houtcome.symm).2 g hg with ⟨-, hmanifest⟩ | ⟨l, tree, -, hparse⟩
    · exact hconfig _ _ g hmanifest
    · rw [OrderedMap.getD, hcontent, Option.getD_some] at hparse
      exact hnew path' content hcontent l g tree hparse
  · obtain rfl := Except.ok.inj heq
    obtain rfl : f = g := Option.some.inj hg
    exact hcached.2

end Engine

/-! ### Imports -/

/-- Every import of a file says what it imports. -/
def ParsedFile.Specified (f : ParsedFile) : Prop :=
  ∀ d ∈ f.imports, d.importSpec.isSome = true

/-- The imports of a parsed file are specified. -/
theorem Engine.ensures_specified (e : Engine) (request : Request) (i : Interruptions) :
    e.Ensures request i ParsedFile.Specified := by
  intro path content _ l f tree hparse d hd
  obtain ⟨t, -, rfl⟩ := exists_tree_of_parse hparse
  obtain ⟨hmem, hkind⟩ := List.mem_filter.mp hd
  rcases SourceTree.mem_definitions_cases hmem with ⟨kind, m, hother, hm⟩ | ⟨i, spec, rfl⟩
  · exact absurd (of_decide_eq_true hkind) (SourceTree.kind_ne_of_declaration? hother hm)
  · rfl

/-- A definition of a configuration file is a function or a variable. -/
theorem Engine.kind_of_handleConfig {path content : String} {f : ParsedFile}
    (h : handleConfig path content = .ok (.parsed f)) {d : Definition} (hd : d ∈ f.definitions) :
    d.kind = .functionDecl ∨ d.kind = .variableDecl :=
  (Manifest.harvested_of_harvest (harvest_of_handleConfig h) d hd).kind

/-- Configuration files import nothing. -/
theorem Engine.specified_of_handleConfig {path content : String} {f : ParsedFile}
    (h : handleConfig path content = .ok (.parsed f)) : f.Specified := by
  intro d hd
  obtain ⟨hmem, himport⟩ := List.mem_filter.mp hd
  have hkind := of_decide_eq_true himport
  rcases kind_of_handleConfig h hmem with hother | hother
  · rw [hother] at hkind
    cases hkind
  · rw [hother] at hkind
    cases hkind

/-- Whatever was ingested before, all imports of a run that returns are specified. -/
theorem Engine.exists_complete_specified {e : Engine} {request : Request} {i : Interruptions}
    {cache : Cache} {res : IngestResult} (hcache : cache.Reachable)
    (h : (e.run request i cache).1 = .ok res) :
    ∃ s os after, e.stages? request i cache = some s ∧ s.request = request ∧
      Plan.ofRequest e.settings request = .ok s.plan ∧ s.Complete os ∧
      (∀ path f, (path, f) ∈ s.files → f.Specified) ∧
      res = e.finish s.skeleton s.parsing cache after := by
  obtain ⟨settings, jobs, rfl⟩ := hcache
  exact exists_complete_with
    (Cache.sound_afterJobs_with settings fun job _ => job.engine.ensures_specified _ _)
    (e.ensures_specified request i) (fun _ _ _ hf => specified_of_handleConfig hf) h

/-! ### Names of types -/

/--
The nodes that are names cover no colon. The parser's trees are so, since in none of the languages
an identifier holds one.
-/
def SourceTree.Lexical (src : SourceTree) : Prop :=
  ∀ i < src.tree.nodes.size,
    src.tree.kind i ∈ "shorthand_property_identifier_pattern" :: nameKinds →
      ':' ∉ (src.text i).toList

/-- The trees of all contents of a request are lexical. -/
def Engine.ReadsNames (e : Engine) (request : Request) : Prop :=
  ∀ path content, request.fileContents.get? path = some content → ∀ l tree,
    e.forest.tree? l (Digest.ofText content) = some tree →
      (⟨tree, content.toUTF8⟩ : SourceTree).Lexical

/-- A cache that some ingestions left behind, all of them with lexical trees. -/
def Cache.LexicallyReachable (cache : Cache) : Prop :=
  ∃ (settings : Settings) (jobs : List Job),
    (∀ job ∈ jobs, job.engine.ReadsNames job.request) ∧
      cache = (Cache.ofSettings settings).afterJobs jobs

/-- The cache before the first ingestion. -/
theorem Cache.lexicallyReachable_ofSettings (settings : Settings) :
    (Cache.ofSettings settings).LexicallyReachable :=
  ⟨settings, [], fun _ hjob => absurd hjob List.not_mem_nil, rfl⟩

/-- The names of all types of a file are without colons. -/
def ParsedFile.PlainTypes (f : ParsedFile) : Prop :=
  ∀ d ∈ f.definitions, d.kind.isType = true → ':' ∉ d.name.toList

/-- Joined parts hold what the parts and the separator hold. -/
theorem Text.notMem_join {c : Char} {sep : String} {parts : List String} (hsep : c ∉ sep.toList)
    (h : ∀ p ∈ parts, c ∉ p.toList) : c ∉ (Text.join sep parts).toList := by
  rw [Text.join, String.toList_ofList]
  induction parts with
  | nil => exact List.not_mem_nil
  | cons p parts ih =>
    have hrest := ih fun q hq => h q (List.mem_cons_of_mem p hq)
    cases parts with
    | nil => simpa using h p List.mem_cons_self
    | cons q parts =>
      rw [List.map_cons, List.map_cons, List.intercalate_cons_cons]
      simp only [List.mem_append, not_or]
      exact ⟨⟨h p List.mem_cons_self, hsep⟩, hrest⟩

namespace SourceTree

variable {src : SourceTree}

/-- A name of a tree is without colons. -/
theorem Lexical.colon_notMem (h : src.Lexical) {i : Nat}
    (hi : src.tree.kind i ∈ "shorthand_property_identifier_pattern" :: nameKinds) :
    ':' ∉ (src.text i).toList := by
  by_cases hsize : i < src.tree.nodes.size
  · exact h i hsize hi
  · have hkind : src.tree.kind i = "" := by
      rw [SyntaxTree.kind, SyntaxTree.node, Array.getD_eq_getD_getElem?,
        Array.getElem?_eq_none (by omega)]
      rfl
    rw [hkind] at hi
    simp [nameKinds] at hi

/-- The names that a pattern binds are without colons. -/
theorem Lexical.patternNamesWithin (h : src.Lexical) {fuel i : Nat} {name : String}
    (hname : name ∈ src.patternNamesWithin fuel i) : ':' ∉ name.toList := by
  induction fuel generalizing i with
  | zero => cases hname
  | succ fuel ih =>
    rw [SourceTree.patternNamesWithin] at hname
    split at hname
    · next hpattern =>
      rw [List.mem_singleton.mp hname]
      refine h.colon_notMem ?_
      rcases List.mem_cons.mp (of_decide_eq_true hpattern) with hkind | hkind
      · rw [hkind]
        exact List.mem_cons_of_mem _ List.mem_cons_self
      · rw [List.mem_singleton.mp hkind]
        exact List.mem_cons_self
    · obtain ⟨j, -, hj⟩ := List.mem_flatMap.mp hname
      exact ih hj

/-- The name of a declaration is without colons. -/
theorem Lexical.declaredName? (h : src.Lexical) {i : Nat} {name : String}
    (hname : src.declaredName? i = some name) : ':' ∉ name.toList := by
  unfold SourceTree.declaredName? at hname
  dsimp only at hname
  split at hname
  · cases hname
  · split at hname
    · split at hname
      · cases hname
      · obtain rfl := Option.some.inj hname
        exact Text.notMem_join (by decide) fun p hp =>
          h.patternNamesWithin (List.mem_of_mem_filter hp)
    · split at hname
      · next hkind =>
        split at hname
        · cases hname
        · obtain rfl := Option.some.inj hname
          exact h.colon_notMem (List.mem_cons_of_mem _ hkind)
      · cases hname

/-- The name of a type is without colons. -/
theorem Lexical.declaration? (h : src.Lexical) {l : Language} {path : String}
    {kind : DefinitionKind} {m : Match} {d : Definition}
    (hd : src.declaration? l path kind m = some d) (htype : d.kind.isType = true) :
    ':' ∉ d.name.toList := by
  obtain ⟨i, -, hname, -, hkind, -⟩ := exists_of_declaration? hd
  have hother : kind ≠ .decorator := by
    rintro rfl
    rw [hkind] at htype
    rcases src.kindInside_cases .decorator (src.enclosingClass? l i) i with
      heq | ⟨heq, -⟩ | ⟨heq, -⟩
    · simp [heq, DefinitionKind.isType] at htype
    · cases heq
    · cases heq
  rw [entityName?, if_neg hother] at hname
  obtain ⟨j, -, hname⟩ := Option.bind_eq_some_iff.mp hname
  exact h.declaredName? hname

end SourceTree

/-- If the trees of a request are lexical, the types that are parsed have plain names. -/
theorem Engine.ReadsNames.ensures {e : Engine} {request : Request} (h : e.ReadsNames request)
    (i : Interruptions) : e.Ensures request i ParsedFile.PlainTypes := by
  intro path content hcontent l f tree hparse d hd htype
  obtain ⟨t, ht, rfl⟩ := exists_tree_of_parse hparse
  rcases SourceTree.mem_definitions_cases hd with ⟨kind, m, -, hm⟩ | ⟨i, spec, rfl⟩
  · exact (h path content hcontent l t ht).declaration? hm htype
  · cases htype

/-- Configuration files define no types. -/
theorem Engine.plainTypes_of_handleConfig {path content : String} {f : ParsedFile}
    (h : handleConfig path content = .ok (.parsed f)) : f.PlainTypes := by
  intro d hd htype
  rcases kind_of_handleConfig h hd with hkind | hkind
  · rw [hkind] at htype
    cases htype
  · rw [hkind] at htype
    cases htype

/-- If all trees are lexical, all types of a run that returns have plain names. -/
theorem Engine.exists_complete_plain {e : Engine} {request : Request} {i : Interruptions}
    {cache : Cache} {res : IngestResult} (hcache : cache.LexicallyReachable)
    (hnames : e.ReadsNames request) (h : (e.run request i cache).1 = .ok res) :
    ∃ s os after, e.stages? request i cache = some s ∧ s.request = request ∧
      Plan.ofRequest e.settings request = .ok s.plan ∧ s.Complete os ∧
      (∀ path f, (path, f) ∈ s.files → f.PlainTypes) ∧
      res = e.finish s.skeleton s.parsing cache after := by
  obtain ⟨settings, jobs, hjobs, rfl⟩ := hcache
  exact exists_complete_with
    (Cache.sound_afterJobs_with settings fun job hjob => (hjobs job hjob).ensures _)
    (hnames.ensures i) (fun _ _ _ hf => plainTypes_of_handleConfig hf) h

end CodeGraph
