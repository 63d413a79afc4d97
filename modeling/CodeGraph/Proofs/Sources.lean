import CodeGraph.Proofs.Digests
import CodeGraph.Proofs.Transparency

/-!
# Runs on given sources

An engine that knows the syntax trees of some sources parses these and nothing else. What it finds
is told by a sketch of the run that leaves out cache and graph: what is in the sketch is in the run,
provided that texts have digests that start differently. No digest has to be evaluated for a sketch.

## Main definitions

* `SourceFile`: the content of a file with its syntax tree.
* `Engine.knowing`: an engine that knows the trees of sources.
* `Engine.sketch`: a run on given sources without its graph.
* `Engine.Outlines`: the sources are all that is parsed, and the sketch has an outline.
* `Stages.Outlined`: a run that returns with an outline.

## Main results

* `SourceFile.IsRead.outcome_eq`: a source that is read is parsed.
* `Engine.Outlines.completes`: a run on given sources completes.
* `Engine.exists_outlined`: such a run returns, with the outline of its sketch.
-/

namespace CodeGraph

/-- The content of a file with its syntax tree. -/
structure SourceFile where
  path : String
  content : String
  tree : SyntaxTree

namespace SourceFile

variable {e : Engine} {l : Language} {request : Request} {s : Selection} {f : SourceFile}

/-- The parse result. -/
def parsed (f : SourceFile) (e : Engine) (l : Language) : ParsedFile :=
  ParsedFile.extract l e.broken f.path f.content f.tree

/-- The file is requested with its content, and it is not too deep to be read in a language. -/
def IsRead (e : Engine) (l : Language) (request : Request) (s : Selection) (f : SourceFile) :
    Prop :=
  request.fileContents.get? f.path = some f.content ∧ s.classify f.path = .source l.name ∧
    s.generated? f.content = none ∧
    (⟨f.tree, f.content.toUTF8⟩ : SourceTree).isReadable l e.broken = true

instance : Decidable (f.IsRead e l request s) :=
  inferInstanceAs (Decidable (_ ∧ _))

/-- What becomes of a file that is parsed. -/
def outcome (f : SourceFile) (e : Engine) (l : Language) (s : Selection) : FileOutcome :=
  Engine.outcomeOf s f.path f.content (.parsed (f.parsed e l))

/-- A source with a known tree that is read is parsed. -/
theorem IsRead.outcome_eq (h : f.IsRead e l request s)
    (htree : e.forest.tree? l (Digest.ofText f.content) = some f.tree) :
    e.outcome s [] f.path (request.fileContents.getD f.path "") = .ok (f.outcome e l s) := by
  obtain ⟨hcontent, hlanguage, hgenerated, hreadable⟩ := h
  have hname : Language.ofName? l.name = some l := by
    cases l <;> rfl
  have hparse : e.parse [] l f.path f.content = .ok (f.parsed e l, some f.tree) := by
    rw [Engine.parse, if_neg List.not_mem_nil, htree]
    exact if_pos hreadable
  have hresult : e.result s [] (.source l.name) f.path f.content =
      .ok (.parsed (f.parsed e l)) := by
    simp only [Engine.result, Engine.sourceResult, hgenerated, hname, Engine.parseResult, hparse]
  rw [OrderedMap.getD, hcontent, Option.getD_some, Engine.outcome, hlanguage, hresult]
  rfl

end SourceFile

namespace Engine

variable {e : Engine} {l : Language} {request : Request} {files : List SourceFile} {o : Outline}

/-- An engine that knows the trees of sources in a language. -/
def knowing (l : Language) (files : List SourceFile) : Engine :=
  { forest := ⟨⟨files.map fun f => (Forest.key l (Digest.ofText f.content), f.tree)⟩⟩ }

/-- Trees are told apart by the digests of their sources. -/
theorem tree?_knowing (l : Language)
    (h : (files.map fun f => Identifier.firstDigits f.content).Nodup) {f : SourceFile}
    (hf : f ∈ files) :
    (knowing l files).forest.tree? l (Digest.ofText f.content) = some f.tree := by
  have hkeys : (files.map fun f => Forest.key l (Digest.ofText f.content)).Nodup := by
    refine h.of_map.map_on fun f hf g hg heq => List.inj_on_of_nodup_map h hf hg ?_
    rw [Forest.key, Forest.key, String.append_right_inj] at heq
    rw [Identifier.firstDigits, Identifier.digest, heq, Identifier.firstDigits, Identifier.digest]
  refine OrderedMap.get?_of_mem_toList ?_ (List.mem_map_of_mem hf)
  rw [OrderedMap.keys, knowing, List.map_map]
  exact hkeys

/-! ### Sketches -/

/-- A run on given sources, as far as it is known without the cache. -/
def sketch (e : Engine) (l : Language) (request : Request) (plan : Plan) (files : List SourceFile) :
    Stages where
  request := request
  plan := plan
  parsing := { parsed := ⟨files.map fun f => (f.path, f.parsed e l)⟩ }

/-- The sources are all that is parsed, and the sketch has an outline. -/
def Outlines (e : Engine) (l : Language) (request : Request) (files : List SourceFile)
    (o : Outline) (plan : Plan) : Prop :=
  Containment.shallow [] plan.visible = true ∧ plan.pending = files.map SourceFile.path ∧
    (∀ f ∈ files, f.IsRead e l request plan.selection) ∧
    (e.sketch l request plan files).full.outline e = o

instance (plan : Plan) : Decidable (e.Outlines l request files o plan) :=
  inferInstanceAs (Decidable (_ ∧ _))

/-- A run on given sources completes with them. -/
theorem Outlines.completes {plan : Plan} (h : e.Outlines l request files o plan)
    (hplan : Plan.ofRequest e.settings request = .ok plan)
    (htrees : ∀ f ∈ files, e.forest.tree? l (Digest.ofText f.content) = some f.tree) :
    e.Completes request {} true plan (files.map fun f => f.outcome e l plan.selection) := by
  obtain ⟨hshallow, hpending, hread, -⟩ := h
  refine ⟨hplan, hshallow, .inr rfl, rfl, ?_⟩
  rw [hpending, List.map_map, List.map_map]
  exact List.map_congr_left fun f hf => (hread f hf).outcome_eq (htrees f hf)

/-- What a sketch has, a run with the same request, plan and parsed files has. -/
theorem Outlines.outline_full {s : Stages} (h : e.Outlines l request files o s.plan)
    (hrequest : s.request = request)
    (hparsed : s.parsing.parsed = ⟨files.map fun f => (f.path, f.parsed e l)⟩) :
    s.full.outline e = o := by
  obtain ⟨_, _, inventory, parsed⟩ := s
  dsimp only at hrequest hparsed
  subst hrequest hparsed
  exact h.2.2.2

/-- The parsed files of a run on given sources are those of its sketch. -/
theorem parsedEntries_outcomes (e : Engine) (l : Language) (s : Selection)
    (files : List SourceFile) :
    (files.map fun f => f.outcome e l s).filterMap FileOutcome.parsedEntry? =
      files.map fun f => (f.path, f.parsed e l) := by
  rw [List.filterMap_map]
  exact congrFun List.filterMap_eq_map' files

end Engine

/-- A run of a fresh engine on given sources that returns with an outline, whose digests differ. -/
structure Stages.Outlined (s : Stages) (os : List FileOutcome) (e : Engine) (l : Language)
    (files : List SourceFile) (request : Request) (o : Outline) : Prop where
  stages : e.stages? request {} (Cache.ofSettings e.settings) = some s
  requested : s.request = request
  planned : Plan.ofRequest e.settings request = .ok s.plan
  complete : s.Complete os
  parsed : s.parsing.parsed = ⟨files.map fun f => (f.path, f.parsed e l)⟩
  outline : s.outline e = o
  nodup : (o.definitions.map (·.2.2)).Nodup
  injective : s.Injective e
  returns : ∃ after, (e.run request {} (Cache.ofSettings e.settings)).1 =
    .ok (e.finish s.skeleton s.parsing (Cache.ofSettings e.settings) after)

/--
A run of an engine that knows some sources returns. It has the outline of its sketch, if a table
separates the texts of that outline.
-/
theorem Engine.exists_outlined {l : Language} {request : Request} {files : List SourceFile}
    {o : Outline} {ids : OrderedMap String String}
    (hcontents : (files.map fun f => Identifier.firstDigits f.content).Nodup)
    (houtline : (Plan.ofRequest {} request).toOption.any
      (fun plan => decide ((knowing l files).Outlines l request files o plan)) = true)
    (hflat : o.Flat) (hids : o.Separates ids) :
    ∃ s os, Stages.Outlined s os (knowing l files) l files request o := by
  cases hplan : Plan.ofRequest {} request with
  | error err =>
    rw [hplan] at houtline
    cases houtline
  | ok plan =>
    rw [hplan] at houtline
    have houtlines : (knowing l files).Outlines l request files o plan :=
      of_decide_eq_true houtline
    have hcompletes := houtlines.completes hplan fun f hf => tree?_knowing l hcontents hf
    have hprepared := prepared_ofSettings (knowing l files) request {}
    have hrelief : (Cache.ofSettings {}).files.lowWater.isSome = true := by
      decide +kernel
    obtain ⟨after, hiff⟩ := run_eq_ok_iff hprepared
    rw [show (knowing l files).settings = {} from rfl, hrelief] at hiff
    have hrun := (hiff _).mpr ⟨plan, _, hcompletes, rfl⟩
    obtain ⟨s, os, after', hstages, hrequest, hsplan, hs, hos, hres⟩ :=
      exists_complete_outcomes hprepared hrun
    obtain rfl := Except.ok.inj (hplan.symm.trans hsplan)
    -- the outcomes of the run are those of the sources
    rw [hcompletes.outcomes] at hos
    obtain rfl := List.map_injective_iff.mpr (fun _ _ => Except.ok.inj) hos
    have hparsed := hs.parsed_eq
    rw [parsedEntries_outcomes] at hparsed
    have houtline := houtlines.outline_full hrequest hparsed
    have hfull : s.full = s := hs.full_eq_of_outline houtline hflat hids.nodup
    rw [hfull] at houtline
    obtain rfl := houtline
    have hnodup : ((s.outline (knowing l files)).definitions.map (·.2.2)).Nodup := by
      have htexts := hids.nodup.of_map
      rw [Outline.texts, Outline.nodeTexts] at htexts
      exact htexts.of_append_left.of_append_right
    exact ⟨s, _, hstages, hrequest, hsplan, hs, hparsed, rfl, hnodup,
      (Identifier.injOn_digest hids.nodup).mono fun t ht => hs.mem_texts_outline hflat ht,
      after', hrun.trans (congrArg Except.ok hres)⟩

namespace Stages.Outlined

variable {s : Stages} {os : List FileOutcome} {e : Engine} {l : Language} {files : List SourceFile}
  {request : Request} {o : Outline}

/-- No two texts of the run have the same digest. -/
theorem injOn_hashed (h : s.Outlined os e l files request o) :
    Set.InjOn Identifier.digest
      {t | t ∈ e.hashed request {} (Cache.ofSettings e.settings)} :=
  h.injective.hashed h.stages

/-- The parsed files are the sources. -/
theorem files_eq (h : s.Outlined os e l files request o) :
    s.files = files.map fun f => (f.path, f.parsed e l) :=
  congrArg OrderedMap.toList h.parsed

/-- The visible files are those of the outline. -/
theorem visible_eq (h : s.Outlined os e l files request o) {plan : Plan}
    (hplan : Plan.ofRequest e.settings request = .ok plan) : plan.visible = o.visible := by
  obtain rfl := Except.ok.inj (hplan.symm.trans h.planned)
  exact congrArg Outline.visible h.outline

/-- A definition of the run is in the file that the outline tells for its text. -/
theorem filePath_eq (h : s.Outlined os e l files request o) {d : Definition}
    (hd : d ∈ s.definitions) {path : String} {kind : DefinitionKind}
    (hmem : (path, kind, d.idSource) ∈ o.definitions) : d.filePath = path := by
  have hown := h.complete.mem_definitions_outline e hd
  rw [h.outline] at hown
  exact congrArg Prod.fst (List.inj_on_of_nodup_map h.nodup hown hmem rfl)

/-- Definitions with the same text are in the same file. -/
theorem filePath_eq_of_idSource_eq (h : s.Outlined os e l files request o) :
    ∀ d ∈ s.definitions, ∀ d' ∈ s.definitions, d.idSource = d'.idSource →
      d.filePath = d'.filePath := by
  intro d hd d' hd' htext
  have hother := h.complete.mem_definitions_outline e hd'
  rw [h.outline, ← htext] at hother
  exact h.filePath_eq hd hother

end Stages.Outlined

end CodeGraph
