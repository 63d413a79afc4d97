import CodeGraph.Proofs.Stages
import Mathlib.Algebra.Group.Int.Defs
import Mathlib.Data.Set.Function

/-!
# Runs do not depend on what a cache holds

A parse result in a cache is what some engine made of some content. If engines agree on syntax
trees, broken queries and languages, and different contents have different digests, then taking a
result from the cache is the same as parsing again.

## Main definitions

* `Engine.Recorded`: a parse result is what an engine makes of known content.
* `Engine.settled`: a run up to its last batch, without a cache.

## Main results

* `Engine.eq_outcome_of_yields`: with recorded results, a file yields its outcome.
* `Engine.run_eq_conclude`: a run concludes what is settled without a cache.
* `Engine.run_eq_ok_iff`: when a run returns, and what.
* `Engine.cache_transparent`: what a run returns does not depend on the history of its cache.
-/

namespace CodeGraph

open Cache (Source Faithful)

/-- Items that are determined by those they are related to are their images. -/
theorem eq_map_of_forall₂ {α β : Type} {R : α → β → Prop} {f : α → β} {as : List α} {bs : List β}
    (h : List.Forall₂ R as bs) (hf : ∀ a ∈ as, ∀ b, R a b → b = f a) : bs = as.map f := by
  induction h with
  | nil => rfl
  | cons hab _ ih =>
    rw [List.map_cons, hf _ List.mem_cons_self _ hab,
      ih fun a ha => hf a (List.mem_cons_of_mem _ ha)]

namespace Engine

variable {e : Engine} {s : Selection} {stalled : List String} {known : String → String → Prop}

/-! ### Recorded results -/

/-- A parse result is what an engine makes of content that is known under its path. -/
def Recorded (e : Engine) (s : Selection) (stalled : List String)
    (known : String → String → Prop) (key : Source) (f : ParsedFile) : Prop :=
  ∃ l content tree, IsParsedIn s key.path l ∧ known key.path content ∧
    key.contentHash = Digest.ofText content ∧
    e.parse stalled l key.path content = .ok (f, tree)

/-- Recorded results are genuine. -/
theorem genuine_of_recorded {key : Source} {f : ParsedFile}
    (h : e.Recorded s stalled known key f) : Cache.Genuine key f := by
  obtain ⟨l, content, tree, -, -, hhash, hparse⟩ := h
  obtain ⟨hpath, hcontent, hauth⟩ := genuine_of_parse hparse
  exact ⟨hpath, hcontent.trans hhash.symm, hauth⟩

/-- Recorded results belong to their keys. -/
theorem faithful_recorded : Faithful (e.Recorded s stalled known) :=
  ⟨fun _ _ h => (genuine_of_recorded h).path, fun _ _ h => (genuine_of_recorded h).contentHash⟩

/-- A path is parsed in one language. -/
theorem IsParsedIn.unique {path : String} {l l' : Language} (h : IsParsedIn s path l)
    (h' : IsParsedIn s path l') : l = l' := by
  obtain ⟨language, hclass, hname⟩ := h
  obtain ⟨language', hclass', hname'⟩ := h'
  rw [hclass] at hclass'
  obtain rfl := Category.source.inj hclass'
  rw [hname] at hname'
  exact Option.some.inj hname'

/-- With recorded results, a file yields what becomes of it without a cache. -/
theorem eq_outcome_of_yields {path content : String} {r : Except IngestError FileOutcome}
    (hknown : ∀ content', known path content' →
      Digest.ofText content' = Digest.ofText content → content' = content)
    (h : e.Yields (e.Recorded s stalled known) s stalled path content r) :
    r = e.outcome s stalled path content := by
  rcases h with houtcome |
    ⟨f, l, ⟨l', content', tree, hl', hcontent, hhash, hparse⟩, hl, hsource, hr⟩
  · exact houtcome
  · obtain rfl := hl'.unique hl
    obtain rfl := hknown content' hcontent hhash.symm
    rw [hr, hsource, parseResult, hparse]
    rfl

/-! ### Runs without a cache -/

/-- What becomes of the files of a plan, in batches. -/
def outcomes (e : Engine) (request : Request) (plan : Plan) (stalled : List String) :
    List (List (Except IngestError FileOutcome)) :=
  (batches e.settings.batchSize plan.pending).map fun batch => batch.map fun path =>
    e.outcome plan.selection stalled path (request.fileContents.getD path "")

/-- A run up to its last batch, without a cache but with memory that can be released or not. -/
def settled (e : Engine) (request : Request) (i : Interruptions) (relief : Bool) (plan : Plan) :
    Except IngestError (Parsing × Checks) :=
  match begun request plan i.cancelAfter with
  | .error err => .error err
  | .ok (c, checks) =>
    settle c.fileIds request.fileContents relief (e.outcomes request plan i.stalled) checks
      (beforeParsing request plan c)

/-- The outcomes of all files, in order. -/
theorem flatten_outcomes (e : Engine) (request : Request) (plan : Plan) (stalled : List String) :
    (e.outcomes request plan stalled).flatten = plan.pending.map fun path =>
      e.outcome plan.selection stalled path (request.fileContents.getD path "") := by
  rw [outcomes, ← List.map_flatten, flatten_batches]

/-- A cache answers all questions of a request like parsing again: contents have their digests. -/
structure Prepared (e : Engine) (request : Request) (i : Interruptions)
    (known : String → String → Prop) (cache : Cache) : Prop where
  sound : cache.Sound
    (e.Recorded (Selection.ofSettings e.settings request.options) i.stalled known)
  requested : ∀ path content, request.fileContents.get? path = some content → known path content
  digests : ∀ path content content', known path content → known path content' →
    Digest.ofText content' = Digest.ofText content → content' = content

namespace Prepared

variable {request : Request} {i : Interruptions} {cache : Cache}

/-- What is parsed anew is recorded. -/
theorem admits (h : e.Prepared request i known cache) :
    e.Admits request i
      (e.Recorded (Selection.ofSettings e.settings request.options) i.stalled known) :=
  fun path content hget l _ tree hl hparse =>
    ⟨l, content, tree, hl, h.requested path content hget, rfl, hparse⟩

/-- A file of the plan yields its outcome. -/
theorem eq_outcome (h : e.Prepared request i known cache) {plan : Plan}
    (hplan : Plan.ofRequest e.settings request = .ok plan) {path : String}
    (hpath : path ∈ plan.pending) {r : Except IngestError FileOutcome}
    (hr : e.Yields (e.Recorded (Selection.ofSettings e.settings request.options) i.stalled known)
      plan.selection i.stalled path (request.fileContents.getD path "") r) :
    r = e.outcome plan.selection i.stalled path (request.fileContents.getD path "") := by
  obtain ⟨content, hcontent⟩ := exists_content_of_mem_pending hplan hpath
  rw [OrderedMap.getD, hcontent, Option.getD_some] at hr ⊢
  rw [(Plan.eq_of_ofRequest hplan).1] at hr ⊢
  exact eq_outcome_of_yields
    (fun content' hcontent' => h.digests path content content'
      (h.requested path content hcontent) hcontent') hr

end Prepared

/-- A fresh cache answers like parsing. -/
theorem prepared_ofSettings (e : Engine) (request : Request) (i : Interruptions) :
    e.Prepared request i (fun path content => request.fileContents.get? path = some content)
      (Cache.ofSettings e.settings) :=
  ⟨Cache.Sound.empty _ _ _ _ _, fun _ _ h => h,
    fun _ _ _ h h' _ => Option.some.inj (h'.symm.trans h)⟩

/-- A run with recorded results concludes what is settled without a cache. -/
theorem run_eq_conclude {request : Request} {i : Interruptions} {cache : Cache}
    (h : e.Prepared request i known cache) :
    ∃ after, (e.run request i cache).1 =
      match Plan.ofRequest e.settings request with
      | .error err => .error err
      | .ok plan => e.conclude (skeletonOf request plan) cache after
          (e.settled request i cache.files.lowWater.isSome plan) := by
  rcases run_cases h.sound faithful_recorded h.admits with
    ⟨err, hrun, ⟨plan, hplan, hbegun⟩ | hplan⟩ |
    ⟨plan, checks, rss, after, hplan, hbegun, -, hrun, -, -, hyields⟩
  · refine ⟨cache, ?_⟩
    rw [hrun, hplan]
    simp only [settled, hbegun, conclude]
  · exact ⟨cache, by rw [hrun, hplan]⟩
  · refine ⟨after, ?_⟩
    have hrss : rss = e.outcomes request plan i.stalled := by
      refine eq_map_of_forall₂ hyields fun batch hbatch rs hrs => ?_
      refine eq_map_of_forall₂ hrs fun path hpath r hr => h.eq_outcome hplan ?_ hr
      rw [← flatten_batches e.settings.batchSize plan.pending]
      exact List.mem_flatten.mpr ⟨batch, hbatch, hpath⟩
    rw [hrun, hplan, hrss]
    simp only [settled, hbegun]

/-- A run that returns has complete stages of the outcomes of its files. -/
theorem exists_complete_outcomes {request : Request} {i : Interruptions} {cache : Cache}
    {res : IngestResult} (h : e.Prepared request i known cache)
    (hrun : (e.run request i cache).1 = .ok res) :
    ∃ s os after, e.stages? request i cache = some s ∧ s.request = request ∧
      Plan.ofRequest e.settings request = .ok s.plan ∧ s.Complete os ∧
      os.map .ok = (s.plan.pending.map fun path =>
        e.outcome s.plan.selection i.stalled path (request.fileContents.getD path "")) ∧
      res = e.finish s.skeleton s.parsing cache after := by
  obtain ⟨s, os, after, hstages, hrequest, hplan, hs, hyields, hres⟩ :=
    exists_complete_yields h.sound (fun _ _ => genuine_of_recorded) h.admits hrun
  refine ⟨s, os, after, hstages, hrequest, hplan, hs, ?_, hres⟩
  exact eq_map_of_forall₂ (List.forall₂_map_right_iff.mpr hyields) fun path hpath r hr =>
    h.eq_outcome hplan hpath hr

/-! ### When a run returns -/

/-- What it takes for a run to return, with the outcomes of its files. -/
structure Completes (e : Engine) (request : Request) (i : Interruptions) (relief : Bool)
    (plan : Plan) (os : List FileOutcome) : Prop where
  planned : Plan.ofRequest e.settings request = .ok plan
  shallow : Containment.shallow [] plan.visible = true
  relieved : plan.pending = [] ∨ relief = true
  checks : (i.cancelAfter.after
    ((batches e.settings.batchSize plan.pending).length + 6)).isSome = true
  outcomes : plan.pending.map (fun path =>
    e.outcome plan.selection i.stalled path (request.fileContents.getD path "")) = os.map .ok

/-- The result of a run with its outcomes. -/
def completed (e : Engine) (request : Request) (plan : Plan) (os : List FileOutcome)
    (before after : Cache) : IngestResult :=
  e.finish (skeletonOf request plan)
    (os.foldl (Parsing.write (skeletonOf request plan).fileIds request.fileContents)
      (beforeParsing request plan (skeletonOf request plan))) before after

/-- There are batches exactly if there are files. -/
theorem outcomes_eq_nil_iff {request : Request} {plan : Plan} {stalled : List String} :
    e.outcomes request plan stalled = [] ↔ plan.pending = [] := by
  rw [outcomes, List.map_eq_nil_iff]
  cases plan.pending with
  | nil => simp [batches]
  | cons path rest => simp [batches]

/-- Of the checks of a run, two come before its batches and four after them. -/
theorem isSome_after_iff {checks : Checks} {n : Nat} : (checks.after (n + 6)).isSome = true ↔
    ∃ mid, checks.after 2 = some mid ∧ (Checks.after mid (n + 4)).isSome = true := by
  rw [show n + 6 = 2 + (n + 4) by omega, Checks.isSome_after_add_iff]

/-- A run returns exactly if it completes. -/
theorem run_eq_ok_iff {request : Request} {i : Interruptions} {cache : Cache}
    (h : e.Prepared request i known cache) :
    ∃ after, ∀ res, (e.run request i cache).1 = .ok res ↔
      ∃ plan os, e.Completes request i cache.files.lowWater.isSome plan os ∧
        res = e.completed request plan os cache after := by
  obtain ⟨after, hrun⟩ := run_eq_conclude h
  refine ⟨after, fun res => ?_⟩
  rw [hrun]
  have hlength : ∀ plan, (e.outcomes request plan i.stalled).length =
      (batches e.settings.batchSize plan.pending).length := fun plan => List.length_map _
  constructor
  · intro h
    cases hplan : Plan.ofRequest e.settings request with
    | error err =>
      rw [hplan] at h
      cases h
    | ok plan =>
      rw [hplan] at h
      obtain ⟨p, checks, hsettled, hfour, rfl⟩ := conclude_eq_ok_iff.mp h
      unfold settled at hsettled
      split at hsettled
      · cases hsettled
      · next c mid hbegun =>
        obtain ⟨hshallow, rfl, htwo⟩ := begun_eq_ok_iff.mp hbegun
        obtain ⟨hrelief, hbatches, os, hos, rfl⟩ := settle_eq_ok_iff.mp hsettled
        refine ⟨plan, os, ⟨hplan, hshallow, hrelief.imp_left outcomes_eq_nil_iff.mp, ?_, ?_⟩, rfl⟩
        · rw [hlength] at hbatches
          have hrest := Checks.isSome_after_add_iff.mpr ⟨checks, hbatches, hfour⟩
          exact isSome_after_iff.mpr ⟨mid, htwo, hrest⟩
        · rw [← hos, flatten_outcomes]
  · rintro ⟨plan, os, hcomplete, rfl⟩
    obtain ⟨hplan, hshallow, hrelief, hchecks, houtcomes⟩ := hcomplete
    rw [hplan]
    obtain ⟨mid, htwo, hrest⟩ := isSome_after_iff.mp hchecks
    obtain ⟨left, hbatches, hfour⟩ := Checks.isSome_after_add_iff.mp hrest
    refine conclude_eq_ok_iff.mpr ⟨_, left, ?_, hfour, rfl⟩
    simp only [settled, begun_eq_ok_iff.mpr ⟨hshallow, rfl, htwo⟩]
    refine settle_eq_ok_iff.mpr ⟨hrelief.imp_left outcomes_eq_nil_iff.mpr, ?_, os, ?_, rfl⟩
    · rw [hlength, hbatches]
    · rw [flatten_outcomes, houtcomes]

end Engine

/-! ### Engines that differ in batches and caches only -/

/-- Settings without what only concerns batches, workers and caches. -/
def Settings.policy (s : Settings) : Settings :=
  { s with
    batchSize := 1
    maxWorkers := 1
    cacheMaxEntries := 1
    cacheMaxBytes := 0
    queryCacheMaxEntries := 0
    grammarCacheMaxEntries := 1
    verifyCacheIntegrity := false }

/-- An engine without what only concerns batches, workers and caches. -/
def Engine.policy (e : Engine) : Engine :=
  { e with settings := e.settings.policy }

/-- Graph and report of a result, without the counters of the cache. -/
def IngestResult.content (res : IngestResult) : Store × Report :=
  (res.store, { res.report with cache := default })

namespace Engine

theorem ofRequest_policy (e : Engine) : Plan.ofRequest e.policy.settings =
    Plan.ofRequest e.settings :=
  rfl

theorem outcome_policy (e : Engine) : e.policy.outcome = e.outcome :=
  rfl

variable {e e' : Engine}

/-- Whether a run completes does not depend on its batches, unless it may be cancelled. -/
theorem Completes.congr {request : Request} {i : Interruptions} {relief relief' : Bool}
    {plan : Plan} {os : List FileOutcome} (h : e.policy = e'.policy)
    (hchecks : i.cancelAfter = none ∨ e.settings.batchSize = e'.settings.batchSize)
    (hrelief : plan.pending = [] ∨ relief' = true)
    (hcomplete : e.Completes request i relief plan os) :
    e'.Completes request i relief' plan os := by
  have hplan : Plan.ofRequest e.settings = Plan.ofRequest e'.settings := by
    rw [← ofRequest_policy, h, ofRequest_policy]
  have houtcome : e.outcome = e'.outcome := by
    rw [← outcome_policy, h, outcome_policy]
  refine ⟨hplan ▸ hcomplete.planned, hcomplete.shallow, hrelief, ?_, ?_⟩
  · rcases hchecks with hnone | hsize
    · rw [hnone]
      rfl
    · rw [← hsize]
      exact hcomplete.checks
  · rw [← houtcome]
    exact hcomplete.outcomes

/-- The contents of a request and of the requests before it. -/
def contents (request : Request) (jobs : List Job) : List String :=
  request.fileContents.values ++ jobs.flatMap fun job => job.request.fileContents.values

end Engine

end CodeGraph
