import CodeGraph.Proofs.FileNodes
import CodeGraph.Proofs.Sources

/-!
# The languages of parsed files

The settings of a run assign a language to a path, and what the run parses anew is parsed in this
language. A result from the cache is found by path and content alone: it has the language that the
run which stored it assigned. So a file has the language of the current settings unless an earlier
run with other settings had the same version of it, and its node always says the language of its
parse result.

## Main definitions

* `Job.Reads`: an ingestion takes a version of a file for a source in a language.
* `Cache.ReadBy`: a parse result in the language of one of some ingestions.

## Main results

* `Engine.language_of_outcome`: what is parsed anew has the assigned language.
* `Cache.readBy_afterJobs`: a cache holds results in the languages of its history.
* `Job.language_of_yields`: the languages of what a run yields.
* `Stages.Complete.get?_language`: the node of a parsed file says its language.
* `Engine.language_assigned`: the languages of the parsed files of a run.
-/

namespace CodeGraph

open Cache (Source)

/-- A language is found by its name. -/
theorem Language.name_of_ofName? {name : String} {l : Language} (h : ofName? name = some l) :
    l.name = name := by
  have hname := List.find?_some h
  exact of_decide_eq_true hname

/-! ### Languages of parse results -/

namespace Engine

variable {e : Engine} {s : Selection} {stalled : List String} {path content : String}

/-- A parse result has the language that it is parsed in. -/
theorem language_of_parse {l : Language} {f : ParsedFile} {tree : Option SyntaxTree}
    (h : e.parse stalled l path content = .ok (f, tree)) : f.language = l.name := by
  obtain ⟨t, -, rfl⟩ := exists_tree_of_parse h
  rfl

/-- Without a cache, a source is parsed in the language that is assigned to it. -/
theorem language_of_outcome {language : String} (hclass : s.classify path = .source language)
    {o : FileOutcome} (h : e.outcome s stalled path content = .ok o) {f : ParsedFile}
    (hf : o.parsed? = some f) : f.language = language := by
  rcases (outcome_cases h).2 f hf with ⟨hconfig, -⟩ | ⟨l, tree, ⟨language', hsource, hname⟩, hparse⟩
  · cases hclass.symm.trans hconfig
  · obtain rfl : language = language' := Category.source.inj (hclass.symm.trans hsource)
    rw [language_of_parse hparse, Language.name_of_ofName? hname]

end Engine

/-! ### Histories -/

/-- What the settings of an ingestion take a path for. -/
def Job.classify (job : Job) (path : String) : Category :=
  (Selection.ofSettings job.engine.settings job.request.options).classify path

/-- An ingestion is given a version of a file, which it takes for a source in a language. -/
structure Job.Reads (job : Job) (key : Source) (language : String) : Prop where
  classify : job.classify key.path = .source language
  content : ∃ content, job.request.fileContents.get? key.path = some content ∧
    Digest.ofText content = key.contentHash

namespace Cache

/-- A parse result of a version of a file, in the language of one of some ingestions. -/
structure ReadBy (jobs : List Job) (key : Source) (f : ParsedFile) : Prop where
  genuine : Genuine key f
  read : ∃ job ∈ jobs, job.Reads key f.language

theorem faithful_readBy (jobs : List Job) : Faithful (ReadBy jobs) :=
  ⟨fun _ _ h => h.genuine.path, fun _ _ h => h.genuine.contentHash⟩

/-- What an ingestion parses anew is in the language that it assigns. -/
theorem admits_readBy {jobs : List Job} {job : Job} (hjob : job ∈ jobs) :
    job.engine.Admits job.request job.interruptions (ReadBy jobs) := by
  intro path content hcontent l f tree hl hparse
  obtain ⟨language, hclass, hname⟩ := hl
  refine ⟨Engine.genuine_of_parse hparse, job, hjob, ?_, content, hcontent, rfl⟩
  rw [Engine.language_of_parse hparse, Language.name_of_ofName? hname]
  exact hclass

/-- A cache holds results in the languages of the ingestions before. -/
theorem readBy_afterJobs (shared : Settings) {jobs all : List Job}
    (hjobs : ∀ job ∈ jobs, job ∈ all) :
    ((Cache.ofSettings shared).afterJobs jobs).Sound (ReadBy all) :=
  ((Cache.Sound.empty _ _ _ _ _).afterJobs (faithful_readBy all) fun job hjob =>
    admits_readBy (hjobs job hjob)).1

end Cache

/--
What an ingestion yields for a source is in the language that it assigns, unless one before it was
given the same version.
-/
theorem Job.language_of_yields (job : Job) {jobs : List Job} {path content language : String}
    (hclass : job.classify path = .source language) {o : FileOutcome}
    (h : job.engine.Yields (Cache.ReadBy (job :: jobs))
      (Selection.ofSettings job.engine.settings job.request.options) job.interruptions.stalled path
      content (.ok o)) {f : ParsedFile} (hf : o.parsed? = some f) :
    f.language = language ∨
      ∃ earlier ∈ jobs, earlier.Reads ⟨path, Digest.ofText content⟩ f.language := by
  rcases h with houtcome | ⟨g, l, hg, -, -, hr⟩
  · exact .inl (Engine.language_of_outcome hclass houtcome.symm hf)
  · obtain rfl := Except.ok.inj hr
    obtain rfl : g = f := Option.some.inj hf
    obtain ⟨reader, hreader, hreads⟩ := hg.read
    rcases List.mem_cons.mp hreader with rfl | hearlier
    · have hsame : Category.source language = .source g.language :=
        hclass.symm.trans hreads.classify
      exact .inl (Category.source.inj hsame).symm
    · exact .inr ⟨reader, hearlier, hreads⟩

/-! ### Files of a run -/

namespace Stages.Complete

variable {s : Stages} {os : List FileOutcome} {e : Engine}

/-- The files that are counted as processed are the parsed ones. -/
theorem processed_eq (h : s.Complete os) : s.parsing.processed = s.files.length := by
  have hsome : (fun o : FileOutcome => o.parsed?.isSome) = fun o => o.parsedEntry?.isSome := by
    funext o
    rw [FileOutcome.parsedEntry?, Option.isSome_map]
  rw [h.written.processed, beforeParsing_eq, files, h.parsed_eq, OrderedMap.toList,
    List.length_filterMap_eq_countP, List.length_filterMap_eq_countP, hsome]
  exact Nat.zero_add _

/-- The node of a parsed file says its language. -/
theorem get?_language (h : s.Complete os) (hinj : s.Injective e) {path : String} {f : ParsedFile}
    (hf : (path, f) ∈ s.files) :
    ∃ n, (s.graph e).node? (Containment.fileId path) = some n ∧ n.label = .file ∧
      n.properties.get? "language" = some (.text f.language) := by
  obtain ⟨o, ho, rfl, hparsed⟩ := h.exists_outcome hf
  refine ⟨s.outcomeNode o, ?_, rfl, ?_⟩
  · rw [h.node?_fileId hinj (h.mem_visible ho), h.described_outcome hinj ho]
  · obtain ⟨path, category, contentHash, fileSize, result⟩ := o
    cases result with
    | parsed g =>
      obtain rfl : g = f := Option.some.inj hparsed
      simp [outcomeNode, FileOutcome.description, parsedProperties, contentProperties,
        OrderedMap.toList, OrderedMap.insertAll, OrderedMap.get?_insert]
    | failed failure => cases hparsed
    | skipped reason => cases hparsed

end Stages.Complete

namespace Engine

/--
A source file that is counted as processed has the language that the current settings assign to its
path, unless an earlier run was given the same version of it and took it for another language. Its
node says the language of its parse result.
-/
theorem language_assigned (e : Engine) (request : Request) (i : Interruptions) (shared : Settings)
    (jobs : List Job) {res : IngestResult}
    (h : (e.run request i ((Cache.ofSettings shared).afterJobs jobs)).1 = .ok res) :
    ∃ s, e.stages? request i ((Cache.ofSettings shared).afterJobs jobs) = some s ∧
      res.store.graph = s.graph e ∧ res.report.processed = s.files.length ∧
      ∀ path f, (path, f) ∈ s.files → ∀ language,
        (Selection.ofSettings e.settings request.options).classify path = .source language →
        (f.language = language ∨ ∃ job ∈ jobs,
          job.Reads ⟨path, Digest.ofText (request.fileContents.getD path "")⟩ f.language) ∧
        (Set.InjOn Identifier.digest
            {t | t ∈ e.hashed request i ((Cache.ofSettings shared).afterJobs jobs)} →
          ∃ n, res.store.graph.node? (Containment.fileId path) = some n ∧ n.label = .file ∧
            n.properties.get? "language" = some (.text f.language)) := by
  have hcache : ((Cache.ofSettings shared).afterJobs jobs).Sound
      (Cache.ReadBy (⟨e, request, i⟩ :: jobs)) :=
    Cache.readBy_afterJobs shared fun _ hjob => List.mem_cons_of_mem _ hjob
  have hnew : e.Admits request i (Cache.ReadBy (⟨e, request, i⟩ :: jobs)) :=
    Cache.admits_readBy (List.mem_cons_self (a := ⟨e, request, i⟩))
  obtain ⟨s, os, after, hstages, hrequest, hplan, hs, hyields, rfl⟩ :=
    exists_complete_yields hcache (fun _ _ hf => hf.genuine) hnew h
  refine ⟨s, hstages, rfl, hs.processed_eq, fun path f hf language hclass => ⟨?_, fun hinj => ?_⟩⟩
  · obtain ⟨o, ho, rfl, hparsed⟩ := hs.exists_outcome hf
    obtain ⟨path, hpath, hyield⟩ := exists_of_mem_forall₂ hyields ho
    rw [(Plan.eq_of_ofRequest hplan).1] at hyield
    obtain rfl : o.path = path := (genuine_of_yields (fun _ _ hf => hf.genuine) hyield).1
    exact Job.language_of_yields ⟨e, request, i⟩ hclass hyield hparsed
  · exact hs.get?_language (Stages.injective_of_hashed hstages hinj) hf

end Engine

/-! ### A sample -/

namespace Relabelled

/-- A class that names itself as its base. -/
def source : String :=
  "class A(A):pass"

/-- Its syntax tree. -/
def tree : SyntaxTree := .ofRows
  [⟨"module", true, none, 0, 15, none, []⟩,
   ⟨"class_definition", true, none, 0, 15, some 0, []⟩,
   ⟨"class", false, none, 0, 5, some 1, []⟩,
   ⟨"identifier", true, some "name", 6, 7, some 1, []⟩,
   ⟨"argument_list", true, some "superclasses", 7, 10, some 1, []⟩,
   ⟨"(", false, none, 7, 8, some 4, []⟩,
   ⟨"identifier", true, none, 8, 9, some 4, []⟩,
   ⟨")", false, none, 9, 10, some 4, []⟩,
   ⟨":", false, none, 10, 11, some 1, []⟩,
   ⟨"block", true, some "body", 11, 15, some 1, []⟩,
   ⟨"pass_statement", true, none, 11, 15, some 9, []⟩,
   ⟨"pass", false, none, 11, 15, some 10, []⟩] false

/-- A request for the class. -/
def request : Request :=
  { filePaths := ["a.py"], fileContents := ⟨[("a.py", source)]⟩ }

/-- A first run takes the file for python. -/
def jobs : List Job :=
  [⟨.knowing .python [⟨"a.py", source, tree⟩], request, {}⟩]

/-- An engine that takes the file for javascript. -/
def engine : Engine :=
  { settings := { languageExtensions := ⟨[("javascript", [".py"])]⟩ } }

/-- What is found: the class. -/
def outline : Outline where
  project := "project"
  visible := ["a.py"]
  definitions := [("a.py", .classDecl, "class:a.py:A:0:15")]
  imports := []
  heritage := []
  calls := []

/-- The identifiers of project, file and class. -/
def ids : OrderedMap String String :=
  ⟨[(Identifier.structureText .project "project", "a98b5e2730c1d113f758df8d"),
    (Identifier.structureText .file "a.py", "4a9f4aa122b45024abcedc57"),
    ("class:a.py:A:0:15", "e6967b5f6198c817d65f11de")]⟩

/-- The digests of the texts of the sample start differently. -/
theorem separates : outline.Separates ids := by
  decide +kernel

/-- What the second run gives: a result with a file for javascript in python, and the class. -/
theorem run_facts :
    (Selection.ofSettings engine.settings request.options).classify "a.py" =
      .source "javascript" ∧
    (engine.run request {} ((Cache.ofSettings {}).afterJobs jobs)).1.toBool = true ∧
    ((engine.stages? request {} ((Cache.ofSettings {}).afterJobs jobs)).map fun s =>
      s.files.map fun f => (f.1, f.2.language)) = some [("a.py", "python")] ∧
    ((engine.stages? request {} ((Cache.ofSettings {}).afterJobs jobs)).map fun s =>
      s.full.outline engine) = some outline := by
  decide +kernel

/-- The digests of the second run are different. -/
theorem injOn_hashed :
    Set.InjOn Identifier.digest
      {t | t ∈ engine.hashed request {} ((Cache.ofSettings {}).afterJobs jobs)} :=
  Engine.injOn_hashed_of_outline ⟨{}, jobs, rfl⟩ run_facts.2.1 run_facts.2.2.2
    (by decide) separates.nodup

/-- The second run has the file, in the language of the first one. -/
theorem exists_file : ∃ s f, engine.stages? request {} ((Cache.ofSettings {}).afterJobs jobs) =
    some s ∧ ("a.py", f) ∈ s.files ∧ f.language = "python" := by
  have hfiles := run_facts.2.2.1
  cases hstages : engine.stages? request {} ((Cache.ofSettings {}).afterJobs jobs) with
  | none =>
    rw [hstages] at hfiles
    cases hfiles
  | some s =>
    rw [hstages, Option.map_some] at hfiles
    have hmem : ("a.py", "python") ∈ s.files.map fun f => (f.1, f.2.language) := by
      rw [Option.some.inj hfiles]
      exact List.mem_singleton.mpr rfl
    obtain ⟨⟨path, f⟩, hf, heq⟩ := List.mem_map.mp hmem
    obtain ⟨rfl, hlanguage⟩ := Prod.mk.inj heq
    exact ⟨s, f, rfl, hf, hlanguage⟩

end Relabelled

namespace Engine

/-- After a run that took the file for python, its node says so: that run read the same version. -/
theorem language_assigned_relabelled :
    ∃ res n, (Relabelled.engine.run Relabelled.request {}
        ((Cache.ofSettings {}).afterJobs Relabelled.jobs)).1 = .ok res ∧
      res.store.graph.node? (Containment.fileId "a.py") = some n ∧
      n.properties.get? "language" = some (.text "python") ∧
      ∃ job ∈ Relabelled.jobs, job.Reads ⟨"a.py", Digest.ofText Relabelled.source⟩ "python" := by
  obtain ⟨res, hres⟩ := Except.exists_eq_ok_of_toBool Relabelled.run_facts.2.1
  obtain ⟨s, hstages, -, -, hall⟩ := language_assigned Relabelled.engine Relabelled.request {} {}
    Relabelled.jobs hres
  obtain ⟨s', f, hstages', hf, hlanguage⟩ := Relabelled.exists_file
  obtain rfl : s' = s := Option.some.inj (hstages'.symm.trans hstages)
  obtain ⟨hreads, hnode⟩ := hall "a.py" f hf "javascript" Relabelled.run_facts.1
  obtain ⟨n, hn, -, hget⟩ := hnode Relabelled.injOn_hashed
  rw [hlanguage] at hget hreads
  exact ⟨res, n, hres, hn, hget, hreads.resolve_left (by decide)⟩

/-- The language of a parsed file is not always the one that the current settings assign. -/
theorem exists_other_language :
    ¬∀ (e : Engine) (request : Request) (shared : Settings) (jobs : List Job) (res : IngestResult)
      (s : Stages),
      (e.run request {} ((Cache.ofSettings shared).afterJobs jobs)).1 = .ok res →
      e.stages? request {} ((Cache.ofSettings shared).afterJobs jobs) = some s →
      ∀ path f, (path, f) ∈ s.files → ∀ language,
        (Selection.ofSettings e.settings request.options).classify path = .source language →
        f.language = language := by
  intro hclaim
  obtain ⟨res, hres⟩ := Except.exists_eq_ok_of_toBool Relabelled.run_facts.2.1
  obtain ⟨s, f, hstages, hf, hlanguage⟩ := Relabelled.exists_file
  have hsame := hclaim Relabelled.engine Relabelled.request {} Relabelled.jobs res s hres hstages
    "a.py" f hf "javascript" Relabelled.run_facts.1
  rw [hlanguage] at hsame
  exact absurd hsame (by decide)

end Engine

end CodeGraph
