import CodeGraph.Ingest.Parsing
import CodeGraph.Proofs.Authentic
import CodeGraph.Proofs.Cache

/-!
# Handling files with and without a cache

What becomes of a file is a function of its path and content, but for one thing: a parse result may
be taken from the cache. A sound cache answers with results of a known property, and never fails on
its own.

## Main definitions

* `Engine.outcome`: what becomes of a file without a cache.
* `Engine.Configures`, `Engine.Parses`, `Engine.Results`: all that this may be, with the reasons.
* `Engine.Yields`: what may become of a file with a sound cache.
* `Engine.settle`: batches of outcomes, written one after the other.

## Main results

* `Engine.configures_handleConfig`, `Engine.parses_parse`, `Engine.results_result`: there is nothing
  else that may become of a file.
* `Engine.handle_yields`: handling a file with a sound cache.
* `Engine.handleBatches_settle`: handling batches is settling what their files yield.
* `Engine.settle_eq_ok_iff`: when batches are settled.
-/

namespace CodeGraph

open Cache (Source Sound Faithful)

namespace Engine

variable (e : Engine)

/-! ### Without a cache -/

/-- What a parse leads to. -/
def parseResult (stalled : List String) (l : Language) (path content : String) :
    Except IngestError FileResult :=
  match e.parse stalled l path content with
  | .error (.failed failure) => .ok (.failed failure)
  | .error .endless => .error (.endless path)
  | .error .tooDeep => .error (.patterns path)
  | .ok (file, _) => .ok (.parsed file)

/-- What becomes of a source file in a language. -/
def sourceResult (s : Selection) (stalled : List String) (language path content : String) :
    Except IngestError FileResult :=
  match s.generated? content with
  | some reason => .ok (.skipped reason)
  | none =>
    match Language.ofName? language with
    | none => .ok (.skipped .unsupportedLanguage)
    | some l => e.parseResult stalled l path content

/-- What becomes of a file of a category. -/
def result (s : Selection) (stalled : List String) (category : Category) (path content : String) :
    Except IngestError FileResult :=
  match category with
  | .config => handleConfig path content
  | .other => .ok (.skipped .nonSource)
  | .source language => e.sourceResult s stalled language path content

/-- A result with what is known about its file. -/
def outcomeOf (s : Selection) (path content : String) (result : FileResult) : FileOutcome :=
  { path
    category := s.classify path
    contentHash := Digest.ofText content
    fileSize := Text.length content
    result }

/-- What becomes of a file. -/
def outcome (s : Selection) (stalled : List String) (path content : String) :
    Except IngestError FileOutcome :=
  (e.result s stalled (s.classify path) path content).map (outcomeOf s path content)

/-- The language that a path is parsed in. -/
def IsParsedIn (s : Selection) (path : String) (l : Language) : Prop :=
  ∃ language, s.classify path = .source language ∧ Language.ofName? language = some l

/-- All that a configuration file may give, each with its reason. -/
inductive Configures (path content : String) : Except IngestError FileResult → Prop where
  | harvested {ds : List Definition} (hds : Manifest.harvest path content = .ok ds) :
      Configures path content (.ok (.parsed
        { filePath := path
          language := "config"
          contentHash := Digest.ofText content
          fileSize := Text.length content
          definitions := ds }))
  | malformed {reason : String} (h : Manifest.harvest path content = .error (.malformed reason)) :
      Configures path content (.ok (.failed { path, reason }))
  | unusable {fault : Manifest.Fault}
      (h : Manifest.harvest path content = .error (.unusable fault)) :
      Configures path content (.error (.manifest fault))

/-- All that a parse may give, each with its reason. -/
inductive Parses (e : Engine) (stalled : List String) (l : Language) (path content : String) :
    Except ParseFault (ParsedFile × Option SyntaxTree) → Prop where
  | stopped {limit : Double} (hstalled : path ∈ stalled) (hlimit : e.timeout? = some limit) :
      Parses e stalled l path content
        (.error (.failed { path, isTimeout := true, reason := timeoutReason limit }))
  | endless (hstalled : path ∈ stalled) (hlimit : e.timeout? = none) :
      Parses e stalled l path content (.error .endless)
  | treeless (hends : path ∉ stalled) (htree : e.forest.tree? l (Digest.ofText content) = none) :
      Parses e stalled l path content
        (.error (.failed { path, reason := "parser returned no tree" }))
  | tooDeep {tree : SyntaxTree} (hends : path ∉ stalled)
      (htree : e.forest.tree? l (Digest.ofText content) = some tree)
      (hdeep : (⟨tree, content.toUTF8⟩ : SourceTree).isReadable l e.broken = false) :
      Parses e stalled l path content (.error .tooDeep)
  | extracted {tree : SyntaxTree} (hends : path ∉ stalled)
      (htree : e.forest.tree? l (Digest.ofText content) = some tree)
      (hreadable : (⟨tree, content.toUTF8⟩ : SourceTree).isReadable l e.broken = true) :
      Parses e stalled l path content
        (.ok (ParsedFile.extract l e.broken path content tree, some tree))

/-- All that a file may give, each with its reason. -/
inductive Results (e : Engine) (s : Selection) (stalled : List String) (path content : String) :
    Except IngestError FileResult → Prop where
  | config {r : Except IngestError FileResult} (hconfig : s.classify path = .config)
      (hr : handleConfig path content = r) : Results e s stalled path content r
  | other (hother : s.classify path = .other) :
      Results e s stalled path content (.ok (.skipped .nonSource))
  | generated {language : String} {reason : SkipReason}
      (hsource : s.classify path = .source language)
      (hgenerated : s.generated? content = some reason) :
      Results e s stalled path content (.ok (.skipped reason))
  | unsupported {language : String} (hsource : s.classify path = .source language)
      (hname : Language.ofName? language = none) :
      Results e s stalled path content (.ok (.skipped .unsupportedLanguage))
  | failed {l : Language} {failure : FileFailure} (hl : IsParsedIn s path l)
      (hparse : e.parse stalled l path content = .error (.failed failure)) :
      Results e s stalled path content (.ok (.failed failure))
  | endless {l : Language} (hl : IsParsedIn s path l)
      (hparse : e.parse stalled l path content = .error .endless) :
      Results e s stalled path content (.error (.endless path))
  | tooDeep {l : Language} (hl : IsParsedIn s path l)
      (hparse : e.parse stalled l path content = .error .tooDeep) :
      Results e s stalled path content (.error (.patterns path))
  | parsed {l : Language} {f : ParsedFile} {tree : Option SyntaxTree} (hl : IsParsedIn s path l)
      (hparse : e.parse stalled l path content = .ok (f, tree)) :
      Results e s stalled path content (.ok (.parsed f))

section Cases

variable {e} {s : Selection} {stalled : List String} {path content : String}

/-- There is no other way to handle a configuration file. -/
theorem configures_handleConfig (path content : String) :
    Configures path content (handleConfig path content) := by
  unfold handleConfig
  split
  · next ds hds => exact .harvested hds
  · next reason h => exact .malformed h
  · next fault h => exact .unusable h

/-- What is parsed of a configuration file holds what is harvested from it. -/
theorem harvest_of_handleConfig {f : ParsedFile} (h : handleConfig path content = .ok (.parsed f)) :
    Manifest.harvest path content = .ok f.definitions := by
  have hcases := configures_handleConfig path content
  rw [h] at hcases
  cases hcases with
  | harvested hds => exact hds

/-- There is no other way to parse. -/
theorem parses_parse (e : Engine) (stalled : List String) (l : Language) (path content : String) :
    e.Parses stalled l path content (e.parse stalled l path content) := by
  unfold parse
  by_cases hstalled : path ∈ stalled
  · rw [if_pos hstalled, stall]
    split
    · next limit hlimit => exact .stopped hstalled hlimit
    · next hlimit => exact .endless hstalled hlimit
  · rw [if_neg hstalled]
    split
    · next htree => exact .treeless hstalled htree
    · next tree htree =>
      split
      · next hreadable => exact .extracted hstalled htree hreadable
      · next hdeep => exact .tooDeep hstalled htree (Bool.eq_false_iff.mpr hdeep)

/-- What is parsed is extracted from the tree of its content. -/
theorem exists_tree_of_parse {l : Language} {f : ParsedFile} {tree : Option SyntaxTree}
    (h : e.parse stalled l path content = .ok (f, tree)) :
    ∃ t, e.forest.tree? l (Digest.ofText content) = some t ∧
      f = ParsedFile.extract l e.broken path content t := by
  have hcases := e.parses_parse stalled l path content
  rw [h] at hcases
  cases hcases with
  | extracted hends htree hreadable => exact ⟨_, htree, rfl⟩

/-- There is no other way to handle a file. -/
theorem results_result (e : Engine) (s : Selection) (stalled : List String)
    (path content : String) :
    e.Results s stalled path content (e.result s stalled (s.classify path) path content) := by
  cases hclass : s.classify path with
  | config => exact .config hclass rfl
  | other => exact .other hclass
  | source language =>
    rw [result, sourceResult]
    split
    · next reason hgenerated => exact .generated hclass hgenerated
    · split
      · next hname => exact .unsupported hclass hname
      · next l hl =>
        have hlanguage : IsParsedIn s path l := ⟨language, hclass, hl⟩
        unfold parseResult
        split
        · next failure hparse => exact .failed hlanguage hparse
        · next hparse => exact .endless hlanguage hparse
        · next hparse => exact .tooDeep hlanguage hparse
        · next f tree hparse => exact .parsed hlanguage hparse

/-- An outcome is a result with what is known about its file. -/
theorem exists_of_outcome_eq_ok {o : FileOutcome} (h : e.outcome s stalled path content = .ok o) :
    ∃ r, e.Results s stalled path content (.ok r) ∧ o = outcomeOf s path content r := by
  have hcases := e.results_result s stalled path content
  unfold outcome at h
  cases hresult : e.result s stalled (s.classify path) path content with
  | error err =>
    rw [hresult] at h
    cases h
  | ok r =>
    rw [hresult] at h hcases
    exact ⟨r, hcases, (Except.ok.inj h).symm⟩

/-- A file without an outcome has no result. -/
theorem results_of_outcome_eq_error {err : IngestError}
    (h : e.outcome s stalled path content = .error err) :
    e.Results s stalled path content (.error err) := by
  have hcases := e.results_result s stalled path content
  unfold outcome at h
  cases hresult : e.result s stalled (s.classify path) path content with
  | error err' =>
    rw [hresult] at h hcases
    obtain rfl : err' = err := Except.error.inj h
    exact hcases
  | ok r =>
    rw [hresult] at h
    cases h

end Cases

/-! ### With a cache -/

/-- What may become of a file: what does without a cache, or a result with a property. -/
def Yields (P : Source → ParsedFile → Prop) (s : Selection) (stalled : List String)
    (path content : String) (r : Except IngestError FileOutcome) : Prop :=
  r = e.outcome s stalled path content ∨
    ∃ f l, P ⟨path, Digest.ofText content⟩ f ∧ IsParsedIn s path l ∧
      e.outcome s stalled path content =
        (e.parseResult stalled l path content).map (outcomeOf s path content) ∧
      r = .ok (outcomeOf s path content (.parsed f))

variable {e} {P : Source → ParsedFile → Prop} {s : Selection} {stalled : List String}
variable {path content : String}

/-- The outcome of a file is about this file. -/
theorem path_of_handle {o : FileOutcome} {cache after : Cache}
    (h : e.handle s stalled path content cache = (.ok o, after)) : o.path = path := by
  unfold handle at h
  dsimp only at h
  split at h
  · cases h
  · obtain ⟨ho, -⟩ := Prod.mk.inj h
    obtain rfl := Except.ok.inj ho
    rfl

/-- The outcomes of a batch are about its files. -/
theorem path_of_handleBatch {contents : OrderedMap String String} {paths : List String}
    {os : List FileOutcome} {cache after : Cache}
    (h : e.handleBatch s stalled contents paths cache = (.ok os, after)) :
    ∀ o ∈ os, o.path ∈ paths := by
  induction paths generalizing cache os with
  | nil =>
    obtain ⟨hos, -⟩ := Prod.mk.inj h
    obtain rfl := Except.ok.inj hos
    intro o ho
    cases ho
  | cons path paths ih =>
    unfold handleBatch at h
    split at h
    · cases h
    · next o mid hhandle =>
      split at h
      · cases h
      · next rest last hrest =>
        obtain ⟨hos, rfl⟩ := Prod.mk.inj h
        obtain rfl := Except.ok.inj hos
        intro o' ho'
        rcases List.mem_cons.mp ho' with rfl | ho'
        · exact path_of_handle hhandle ▸ List.mem_cons_self
        · exact List.mem_cons_of_mem path (ih hrest o' ho')

/-- Parsing through a sound cache. -/
theorem parseCached_cases {cache : Cache} (hc : cache.Sound P) (hP : Faithful P) (l : Language)
    (hnew : ∀ f tree, e.parse stalled l path content = .ok (f, tree) →
      P ⟨path, Digest.ofText content⟩ f) :
    ∃ r after, e.parseCached stalled l path content cache = (r, after) ∧ after.Sound P ∧
      after.files.lowWater = cache.files.lowWater ∧
      (r = e.parseResult stalled l path content ∨
        ∃ f, P ⟨path, Digest.ofText content⟩ f ∧ r = .ok (.parsed f)) := by
  obtain ⟨r, files, hget, hfiles, hwater, hcases⟩ :=
    hc.files.getOrParse hP ⟨path, Digest.ofText content⟩
      (fun _ => e.parse stalled l path content) hnew
  have hsound : ({ cache with files } : Cache).Sound P := ⟨hfiles, hc.grammars⟩
  simp only [parseCached, hget]
  rcases hcases with ⟨f, hf, rfl⟩ | ⟨f, tree, hparse, rfl⟩ | ⟨err, hparse, rfl⟩
  · exact ⟨_, _, rfl, hsound, hwater, .inr ⟨f, hf, rfl⟩⟩
  · refine ⟨_, _, rfl, hsound.compileAll e.broken l, hwater, .inl ?_⟩
    simp only [parseResult, hparse]
  · cases err with
    | failed failure =>
      refine ⟨_, _, rfl, hsound, hwater, .inl ?_⟩
      simp only [parseResult, hparse]
    | endless =>
      refine ⟨_, _, rfl, hsound, hwater, .inl ?_⟩
      simp only [parseResult, hparse]
    | tooDeep =>
      refine ⟨_, _, rfl, hsound, hwater, .inl ?_⟩
      simp only [parseResult, hparse]

/-- Handling a file with a sound cache: the cache stays sound, and the file yields its outcome. -/
theorem handle_yields {cache : Cache} (hc : cache.Sound P) (hP : Faithful P)
    (hnew : ∀ l f tree, IsParsedIn s path l → e.parse stalled l path content = .ok (f, tree) →
      P ⟨path, Digest.ofText content⟩ f) :
    ∃ r after, e.handle s stalled path content cache = (r, after) ∧ after.Sound P ∧
      after.files.lowWater = cache.files.lowWater ∧ e.Yields P s stalled path content r := by
  cases hclass : s.classify path with
  | config =>
    cases hconfig : handleConfig path content with
    | error err =>
      refine ⟨.error err, cache, ?_, hc, rfl, .inl ?_⟩
      · simp only [handle, handleCategory, hclass, hconfig]
      · simp only [outcome, result, hclass, hconfig, Except.map]
    | ok res =>
      refine ⟨.ok (outcomeOf s path content res), cache, ?_, hc, rfl, .inl ?_⟩
      · simp only [handle, handleCategory, hclass, hconfig, outcomeOf]
      · simp only [outcome, result, hclass, hconfig, Except.map]
  | other =>
    refine ⟨.ok (outcomeOf s path content (.skipped .nonSource)), cache, ?_, hc, rfl, .inl ?_⟩
    · simp only [handle, handleCategory, hclass, outcomeOf]
    · simp only [outcome, result, hclass, Except.map]
  | source language =>
    cases hgen : s.generated? content with
    | some reason =>
      refine ⟨.ok (outcomeOf s path content (.skipped reason)), cache, ?_, hc, rfl, .inl ?_⟩
      · simp only [handle, handleCategory, handleSource, hclass, hgen, outcomeOf]
      · simp only [outcome, result, sourceResult, hclass, hgen, Except.map]
    | none =>
      obtain ⟨g, queries, hgrammar, hname, hsound⟩ := hc.grammar language
      cases g with
      | none =>
        have hunknown : Language.ofName? language = none := hname.symm
        refine ⟨.ok (outcomeOf s path content (.skipped .unsupportedLanguage)), _, ?_, hsound,
          rfl, .inl ?_⟩
        · simp only [handle, handleCategory, handleSource, hclass, hgen, hgrammar, outcomeOf]
        · simp only [outcome, result, sourceResult, hclass, hgen, hunknown, Except.map]
      | some g =>
        have hknown : Language.ofName? language = some g.language := hname.symm
        have hlang : IsParsedIn s path g.language := ⟨language, hclass, hknown⟩
        obtain ⟨r, after, hparse, hafter, hwater, hcases⟩ :=
          parseCached_cases hsound hP g.language fun f tree => hnew g.language f tree hlang
        have hhandle : e.handle s stalled path content cache =
            (r.map (outcomeOf s path content), after) := by
          simp only [handle, handleCategory, handleSource, hclass, hgen, hgrammar, hparse]
          cases r <;> simp only [Except.map, outcomeOf, hclass]
        have houtcome : e.outcome s stalled path content =
            (e.parseResult stalled g.language path content).map (outcomeOf s path content) := by
          simp only [outcome, result, sourceResult, hclass, hgen, hknown]
        refine ⟨_, after, hhandle, hafter, hwater, ?_⟩
        rcases hcases with rfl | ⟨f, hf, rfl⟩
        · exact .inl houtcome.symm
        · exact .inr ⟨f, g.language, hf, hlang, houtcome, rfl⟩

/-! ### Batches -/

/-- Every file yields its outcome. -/
theorem forall₂_yields_outcome (contents : OrderedMap String String) (paths : List String) :
    List.Forall₂ (fun path r => e.Yields P s stalled path (contents.getD path "") r) paths
      (paths.map fun path => e.outcome s stalled path (contents.getD path "")) := by
  induction paths with
  | nil => exact .nil
  | cons path paths ih => exact .cons (.inl rfl) ih

/-- Handling a batch with a sound cache: the first failure counts, or all outcomes do. -/
theorem handleBatch_yields (hP : Faithful P) {contents : OrderedMap String String}
    {paths : List String} {cache : Cache} (hc : cache.Sound P)
    (hnew : ∀ path ∈ paths, ∀ l f tree, IsParsedIn s path l →
      e.parse stalled l path (contents.getD path "") = .ok (f, tree) →
      P ⟨path, Digest.ofText (contents.getD path "")⟩ f) :
    ∃ rs after, e.handleBatch s stalled contents paths cache = (rs.mapM id, after) ∧
      after.Sound P ∧ after.files.lowWater = cache.files.lowWater ∧
      List.Forall₂ (fun path r => e.Yields P s stalled path (contents.getD path "") r) paths
        rs := by
  induction paths generalizing cache with
  | nil => exact ⟨[], cache, rfl, hc, rfl, .nil⟩
  | cons path paths ih =>
    obtain ⟨r, mid, hhandle, hmid, hwater, hyield⟩ :=
      handle_yields hc hP (hnew path List.mem_cons_self)
    cases r with
    | error err =>
      refine ⟨.error err :: paths.map fun p => e.outcome s stalled p (contents.getD p ""), mid, ?_,
        hmid, hwater, .cons hyield (forall₂_yields_outcome contents paths)⟩
      simp only [handleBatch, hhandle, List.mapM_cons]
      rfl
    | ok o =>
      obtain ⟨rs, after, hrest, hafter, hwater', hyields⟩ :=
        ih hmid fun p hp => hnew p (List.mem_cons_of_mem path hp)
      refine ⟨.ok o :: rs, after, ?_, hafter, hwater'.trans hwater, .cons hyield hyields⟩
      simp only [handleBatch, hhandle, hrest, List.mapM_cons]
      cases rs.mapM id <;> rfl

/-- Write batches of outcomes; each of them needs a check, and memory that can be released. -/
def settle (fileIds contents : OrderedMap String String) (relief : Bool) :
    List (List (Except IngestError FileOutcome)) → Checks → Parsing →
      Except IngestError (Parsing × Checks)
  | [], checks, p => .ok (p, checks)
  | batch :: rest, checks, p =>
    match checks.pass .parsing with
    | .error err => .error err
    | .ok checks =>
      match batch.mapM id with
      | .error err => .error err
      | .ok os =>
        if relief then
          settle fileIds contents relief rest checks (os.foldl (Parsing.write fileIds contents) p)
        else .error .budget

/-- Handling batches with a sound cache is settling what their files yield. -/
theorem handleBatches_settle (hP : Faithful P) (fileIds contents : OrderedMap String String)
    (checks : Checks) (p : Parsing) {groups : List (List String)} {cache : Cache}
    (hc : cache.Sound P)
    (hnew : ∀ path ∈ groups.flatten, ∀ l f tree, IsParsedIn s path l →
      e.parse stalled l path (contents.getD path "") = .ok (f, tree) →
      P ⟨path, Digest.ofText (contents.getD path "")⟩ f) :
    ∃ rss after, e.handleBatches s stalled fileIds contents groups checks p cache =
        (settle fileIds contents cache.files.lowWater.isSome rss checks p, after) ∧
      after.Sound P ∧ after.files.lowWater = cache.files.lowWater ∧
      List.Forall₂ (List.Forall₂ fun path r =>
        e.Yields P s stalled path (contents.getD path "") r) groups rss := by
  -- what stands behind a failure is never reached and may be anything that its files yield
  have hdefault : ∀ groups : List (List String),
      List.Forall₂ (List.Forall₂ fun path r =>
        e.Yields P s stalled path (contents.getD path "") r) groups
        (groups.map fun batch => batch.map fun path =>
          e.outcome s stalled path (contents.getD path "")) := by
    intro groups
    induction groups with
    | nil => exact .nil
    | cons batch groups ih => exact .cons (forall₂_yields_outcome contents batch) ih
  induction groups generalizing checks p cache with
  | nil => exact ⟨[], cache, rfl, hc, rfl, .nil⟩
  | cons batch groups ih =>
    rw [List.flatten_cons] at hnew
    obtain ⟨rs, mid, hbatch, hmid, hwater, hyields⟩ :=
      handleBatch_yields hP hc fun path hpath => hnew path (List.mem_append_left _ hpath)
    cases hpass : checks.pass .parsing with
    | error err =>
      refine ⟨_, cache, ?_, hc, rfl, hdefault (batch :: groups)⟩
      simp only [handleBatches, hpass, List.map_cons, settle]
    | ok left =>
      cases hrs : rs.mapM id with
      | error err =>
        refine ⟨rs :: _, mid, ?_, hmid, hwater, .cons hyields (hdefault groups)⟩
        simp only [handleBatches, hpass, hbatch, hrs, settle]
      | ok os =>
        cases hlow : mid.files.lowWater with
        | none =>
          refine ⟨rs :: _, mid, ?_, hmid, hwater, .cons hyields (hdefault groups)⟩
          have hnone : cache.files.lowWater.isSome = false := by rw [← hwater, hlow]; rfl
          simp only [handleBatches, hpass, hbatch, hrs, settle, Cache.relieve?, hlow, hnone]
          rfl
        | some mark =>
          obtain ⟨rss, after, hrest, hafter, hwater', hyields'⟩ :=
            ih left (os.foldl (Parsing.write fileIds contents) p) (hmid.relieveTo mark)
              fun path hpath => hnew path (List.mem_append_right _ hpath)
          have hmark : (mid.relieveTo mark).1.files.lowWater = cache.files.lowWater := by
            rw [Cache.lowWater_relieveTo, hwater]
          have hsome : cache.files.lowWater.isSome = true := by rw [← hwater, hlow]; rfl
          refine ⟨rs :: rss, after, ?_, hafter, hwater'.trans hmark, .cons hyields hyields'⟩
          rw [hmark, hsome] at hrest
          simp only [handleBatches, hpass, hbatch, hrs, settle, Cache.relieve?, hlow, hsome,
            Option.map_some, hrest]
          rfl

/-! ### When batches are settled -/

/-- All items of a list are there exactly if the list is one of items. -/
theorem mapM_id_eq_ok_iff {ε α : Type} {rs : List (Except ε α)} {as : List α} :
    rs.mapM id = .ok as ↔ rs = as.map .ok := by
  induction rs generalizing as with
  | nil =>
    cases as with
    | nil => exact ⟨fun _ => rfl, fun _ => rfl⟩
    | cons a as =>
      constructor
      · intro h
        cases h
      · intro h
        cases h
  | cons r rs ih =>
    rw [List.mapM_cons]
    constructor
    · intro h
      obtain ⟨a, hr, h⟩ := Except.bind_eq_ok_iff.mp h
      obtain ⟨as', hrs, h⟩ := Except.bind_eq_ok_iff.mp h
      obtain rfl := Except.ok.inj h
      obtain rfl : r = .ok a := hr
      rw [ih.mp hrs, List.map_cons]
    · intro h
      cases as with
      | nil => cases h
      | cons a as =>
        obtain ⟨rfl, hrs⟩ := List.cons.inj h
        rw [ih.mpr hrs]
        rfl

end Engine

/-- The checks left after a number of them, if they all pass. -/
def Checks.after (checks : Checks) (n : Nat) : Option Checks :=
  match checks with
  | none => some none
  | some k => if n ≤ k then some (some (k - n)) else none

/-- One more check passes first. -/
theorem Checks.after_succ {checks left : Checks} {stage : Stage} (h : checks.pass stage = .ok left)
    (n : Nat) : checks.after (n + 1) = left.after n := by
  rcases checks with - | (- | k)
  · obtain rfl := Except.ok.inj h
    rfl
  · cases h
  · obtain rfl := Except.ok.inj h
    simp only [after, Nat.succ_le_succ_iff, Nat.add_sub_add_right]

/-- A check that fails leaves none. -/
theorem Checks.after_eq_none {checks : Checks} {stage : Stage} {err : IngestError}
    (h : checks.pass stage = .error err) (n : Nat) : checks.after (n + 1) = none := by
  rcases checks with - | (- | k)
  · cases h
  · rfl
  · cases h

/-- Checks pass one part after the other. -/
theorem Checks.after_add (checks : Checks) (m n : Nat) :
    checks.after (m + n) = (checks.after m).bind fun left => Checks.after left n := by
  cases checks with
  | none => rfl
  | some k =>
    simp only [after]
    by_cases hm : m ≤ k
    · simp only [hm, if_true, Option.bind_some]
      by_cases hn : n ≤ k - m
      · rw [if_pos (by omega), if_pos hn, Nat.sub_sub]
      · rw [if_neg (by omega), if_neg hn]
    · rw [if_neg (by omega), if_neg hm, Option.bind_none]

/-- Checks are enough for two parts if they are for the first one, and the rest for the other. -/
theorem Checks.isSome_after_add_iff {checks : Checks} {m n : Nat} :
    (checks.after (m + n)).isSome = true ↔
      ∃ left, checks.after m = some left ∧ (Checks.after left n).isSome = true := by
  rw [after_add]
  cases checks.after m <;> simp

namespace Engine

variable {fileIds contents : OrderedMap String String}

/--
Batches are settled exactly if every file has an outcome, memory can be released if there are
batches at all, and there are checks enough.
-/
theorem settle_eq_ok_iff {relief : Bool} {rss : List (List (Except IngestError FileOutcome))}
    {checks left : Checks} {p p' : Parsing} :
    settle fileIds contents relief rss checks p = .ok (p', left) ↔
      (rss = [] ∨ relief = true) ∧ checks.after rss.length = some left ∧
        ∃ os : List FileOutcome, rss.flatten = os.map .ok ∧
          p' = os.foldl (Parsing.write fileIds contents) p := by
  induction rss generalizing checks p with
  | nil =>
    have hafter : checks.after 0 = some checks := by cases checks <;> rfl
    simp only [settle, Except.ok.injEq, Prod.mk.injEq, true_or, true_and, List.length_nil, hafter,
      Option.some.injEq, List.flatten_nil]
    constructor
    · rintro ⟨rfl, rfl⟩
      exact ⟨rfl, [], rfl, rfl⟩
    · rintro ⟨rfl, os, hos, rfl⟩
      obtain rfl := List.map_eq_nil_iff.mp hos.symm
      exact ⟨rfl, rfl⟩
  | cons batch rss ih =>
    simp only [settle, List.length_cons, List.flatten_cons, reduceCtorEq, false_or]
    cases hpass : checks.pass .parsing with
    | error err => simp [Checks.after_eq_none hpass]
    | ok mid =>
      rw [Checks.after_succ hpass]
      cases hbatch : batch.mapM id with
      | error err =>
        simp only [reduceCtorEq, false_iff, not_and, not_exists]
        rintro - - os hos -
        -- the batch would be the front part of the outcomes
        obtain ⟨front, back, rfl, hfront, -⟩ := List.append_eq_map_iff.mp hos
        rw [mapM_id_eq_ok_iff.mpr hfront.symm] at hbatch
        cases hbatch
      | ok os =>
        have hmap := mapM_id_eq_ok_iff.mp hbatch
        cases relief with
        | false => simp
        | true =>
          simp only [if_true, true_and]
          rw [ih]
          simp only [or_true, true_and]
          refine and_congr_right fun _ => ?_
          constructor
          · rintro ⟨os', hos', rfl⟩
            exact ⟨os ++ os', by rw [hmap, hos', List.map_append], by rw [List.foldl_append]⟩
          · rintro ⟨all, hall, rfl⟩
            obtain ⟨front, back, rfl, hfront, hback⟩ := List.append_eq_map_iff.mp hall
            obtain rfl : front = os :=
              List.map_injective_iff.mpr (fun _ _ => Except.ok.inj) (hfront.trans hmap)
            exact ⟨back, hback.symm, by rw [List.foldl_append]⟩

end Engine

/-! ### Batches of a list -/

/-- Batches hold all items in order. -/
theorem flatten_batches {α : Type} (n : Nat) (xs : List α) : (batches n xs).flatten = xs := by
  fun_induction batches n xs with
  | case1 => rfl
  | case2 x xs ih => rw [List.flatten_cons, ih, List.cons_append, List.take_append_drop]

/-- The number of batches depends on the number of items only. -/
theorem length_batches_congr {α : Type} (n : Nat) {xs ys : List α} (h : xs.length = ys.length) :
    (batches n xs).length = (batches n ys).length := by
  fun_induction batches n xs generalizing ys with
  | case1 => rw [List.length_eq_zero_iff.mp h.symm, batches]
  | case2 x xs ih =>
    cases ys with
    | nil => cases h
    | cons y ys =>
      rw [batches, List.length_cons, List.length_cons, ih]
      simp only [List.length_drop]
      simp only [List.length_cons] at h
      omega

end CodeGraph
