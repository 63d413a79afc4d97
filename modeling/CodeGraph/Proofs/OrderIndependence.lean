import CodeGraph.Proofs.CallEdges
import CodeGraph.Proofs.Nesting
import CodeGraph.Proofs.Reordering
import CodeGraph.Proofs.Transparency

/-!
# Runs and the order of files

A request lists its files in some order. The plan, the outcomes of the files and all that is made of
them are the same in any other order, with one exception: whether a file is nested too deep depends
on the folders that files before it have needed.

## Main definitions

* `IngestResult.Agrees`: two results have the same graph and report, but for the order.
* `Engine.Alike`: two runs come out alike.

## Main results

* `Engine.Completes.reorder`: a run that returns also returns in another order that is shallow.
* `Engine.agrees_of_eq_ok`: two runs that return agree.
* `Engine.order_irrelevant`: runs on the same files in different orders.
-/

namespace CodeGraph

/-- Two results have the same graph and the same report, but for the order. -/
structure IngestResult.Agrees (res res' : IngestResult) : Prop where
  graph : res.store.graph.Agrees res'.store.graph
  report : res.report.Agrees res'.report

namespace Engine

variable {e : Engine} {request : Request} {i : Interruptions} {paths : List String}

/-- Two runs come out alike: both fail, or both return results that agree. -/
def Alike (r r' : Except IngestError IngestResult) : Prop :=
  (∃ err err', r = .error err ∧ r' = .error err') ∨
    ∃ res res', r = .ok res ∧ r' = .ok res' ∧ res.Agrees res'

/-! ### Runs in another order -/

/-- What completes in one order completes in any other one that is shallow. -/
theorem Completes.reorder {relief : Bool} {plan plan' : Plan} {os : List FileOutcome}
    (hperm : request.filePaths.Perm paths) (h : e.Completes request i relief plan os)
    (hplan' : Plan.ofRequest e.settings { request with filePaths := paths } = .ok plan')
    (hshallow : Containment.shallow [] plan'.visible = true) :
    ∃ os', e.Completes { request with filePaths := paths } i relief plan' os' := by
  obtain ⟨_, hplan, hselection, hfiles⟩ := Plan.ofRequest_perm hperm h.planned
  obtain rfl := Except.ok.inj (hplan'.symm.trans hplan)
  have hpending := Plan.pending_perm hfiles
  have houtcomes : (plan'.pending.map fun path => e.outcome plan'.selection i.stalled path
      (request.fileContents.getD path "")).Perm (os.map .ok) := by
    rw [hselection, ← h.outcomes]
    exact hpending.symm.map _
  -- a list in another order than an image is itself an image
  obtain ⟨os', hos', -⟩ := (congrFun₂ (List.eq_map_comp_perm Except.ok) _ os).mpr houtcomes
  refine ⟨os', hplan', hshallow, ?_, ?_, hos'⟩
  · refine h.relieved.imp_left fun hnil => ?_
    rw [hnil] at hpending
    exact hpending.nil_eq.symm
  · rw [← length_batches_congr _ hpending.length_eq]
    exact h.checks

/-- A run that gets to its skeleton fails if some file is nested too deep. -/
theorem run_eq_tooDeep {known : String → String → Prop} {cache : Cache} {plan : Plan} {n : Nat}
    (h : e.Prepared request i known cache)
    (hplan : Plan.ofRequest e.settings request = .ok plan)
    (hchecks : (i.cancelAfter.after (n + 1)).isSome = true)
    (hdeep : Containment.shallow [] plan.visible = false) :
    (e.run request i cache).1 = .error .tooDeep := by
  obtain ⟨after, hrun⟩ := run_eq_conclude h
  have hbegun : begun request plan i.cancelAfter = .error .tooDeep := by
    cases hpass : i.cancelAfter.pass .structure with
    | error err =>
      rw [Checks.after_eq_none hpass] at hchecks
      cases hchecks
    | ok left =>
      simp only [begun, hpass, skeleton_eq, hdeep]
      rfl
  rw [hrun, hplan]
  simp only [settled, hbegun, conclude]

/-- If a run returns, the same files in another order give a result or are nested too deep. -/
theorem exists_ok_or_tooDeep (hperm : request.filePaths.Perm paths) {res : IngestResult}
    (hrun : (e.run request i (Cache.ofSettings e.settings)).1 = .ok res) :
    ∃ plan plan', Plan.ofRequest e.settings request = .ok plan ∧
      Plan.ofRequest e.settings { request with filePaths := paths } = .ok plan' ∧
      Containment.shallow [] plan.visible = true ∧
      ((∃ res', (e.run { request with filePaths := paths } i
          (Cache.ofSettings e.settings)).1 = .ok res') ∨
        Containment.shallow [] plan'.visible = false ∧
          (e.run { request with filePaths := paths } i
            (Cache.ofSettings e.settings)).1 = .error .tooDeep) := by
  have hprepared' := prepared_ofSettings e { request with filePaths := paths } i
  obtain ⟨after, hiff⟩ := run_eq_ok_iff (prepared_ofSettings e request i)
  obtain ⟨after', hiff'⟩ := run_eq_ok_iff hprepared'
  obtain ⟨plan, os, hcomplete, -⟩ := (hiff res).mp hrun
  obtain ⟨plan', hplan', -, -⟩ := Plan.ofRequest_perm hperm hcomplete.planned
  refine ⟨plan, plan', hcomplete.planned, hplan', hcomplete.shallow, ?_⟩
  cases hshallow : Containment.shallow [] plan'.visible with
  | true =>
    obtain ⟨os', hcomplete'⟩ := hcomplete.reorder hperm hplan' hshallow
    exact .inl ⟨_, (hiff' _).mpr ⟨plan', os', hcomplete', rfl⟩⟩
  | false => exact .inr ⟨rfl, run_eq_tooDeep hprepared' hplan' hcomplete.checks hshallow⟩

/-! ### Results in another order -/

/-- The stages of two runs that return are the same but for the order. -/
theorem exists_reordered (hperm : request.filePaths.Perm paths) {res res' : IngestResult}
    (hrun : (e.run request i (Cache.ofSettings e.settings)).1 = .ok res)
    (hrun' : (e.run { request with filePaths := paths } i (Cache.ofSettings e.settings)).1 =
      .ok res') :
    ∃ s s' os os' after after', e.stages? request i (Cache.ofSettings e.settings) = some s ∧
      Stages.Reordered s s' os os' ∧
      res = e.finish s.skeleton s.parsing (Cache.ofSettings e.settings) after ∧
      res' = e.finish s'.skeleton s'.parsing (Cache.ofSettings e.settings) after' := by
  obtain ⟨s, os, after, hstages, hrequest, hplan, hs, hos, hres⟩ :=
    exists_complete_outcomes (prepared_ofSettings e request i) hrun
  obtain ⟨s', os', after', -, hrequest', hplan', hs', hos', hres'⟩ :=
    exists_complete_outcomes (prepared_ofSettings e { request with filePaths := paths } i) hrun'
  obtain ⟨_, hplan'', hselection, hfiles⟩ := Plan.ofRequest_perm hperm hplan
  obtain rfl := Except.ok.inj (hplan'.symm.trans hplan'')
  have houtcomes : (os.map Except.ok).Perm (os'.map (Except.ok : _ → Except IngestError _)) := by
    rw [hos, hos', hselection]
    exact (Plan.pending_perm hfiles).map _
  refine ⟨s, s', os, os', after, after', hstages, ⟨hs, hs', ?_, ?_, ?_, hfiles, ?_⟩, hres, hres'⟩
  · rw [hrequest, hrequest']
  · rw [hrequest, hrequest']
  · rw [hrequest, hrequest']
  · exact (List.map_perm_map_iff fun _ _ => Except.ok.inj).mp houtcomes

/-- Two runs that return agree. -/
theorem agrees_of_eq_ok (hperm : request.filePaths.Perm paths)
    (hinj : Set.InjOn Identifier.digest
      {t | t ∈ e.hashed request i (Cache.ofSettings e.settings)})
    (hfiles : ∀ d ∈ e.definitions request i (Cache.ofSettings e.settings),
      ∀ d' ∈ e.definitions request i (Cache.ofSettings e.settings),
        d.idSource = d'.idSource → d.filePath = d'.filePath)
    {res res' : IngestResult}
    (hrun : (e.run request i (Cache.ofSettings e.settings)).1 = .ok res)
    (hrun' : (e.run { request with filePaths := paths } i (Cache.ofSettings e.settings)).1 =
      .ok res') : res.Agrees res' := by
  obtain ⟨s, s', os, os', after, after', hstages, h, rfl, rfl⟩ :=
    exists_reordered hperm hrun hrun'
  have hinj' : s.Injective e := Stages.injective_of_hashed hstages hinj
  rw [Engine.definitions, hstages] at hfiles
  have hsep := h.left.separate hinj' hfiles
  exact ⟨h.graph_agrees hsep hinj', h.report_agrees hsep hinj' _ _ _ _⟩

/--
Runs on the same files in different orders come out alike, unless the files are nested too deep in
one of the orders and not in the other: then one run fails where the other one returns.
-/
theorem order_irrelevant (e : Engine) (request : Request) (i : Interruptions)
    {paths : List String} (hperm : request.filePaths.Perm paths)
    (hinj : Set.InjOn Identifier.digest
      {t | t ∈ e.hashed request i (Cache.ofSettings e.settings)})
    (hfiles : ∀ d ∈ e.definitions request i (Cache.ofSettings e.settings),
      ∀ d' ∈ e.definitions request i (Cache.ofSettings e.settings),
        d.idSource = d'.idSource → d.filePath = d'.filePath) :
    Alike (e.run request i (Cache.ofSettings e.settings)).1
      (e.run { request with filePaths := paths } i (Cache.ofSettings e.settings)).1 ∨
    ∃ plan plan', Plan.ofRequest e.settings request = .ok plan ∧
      Plan.ofRequest e.settings { request with filePaths := paths } = .ok plan' ∧
      (Containment.shallow [] plan.visible = true ∧
        Containment.shallow [] plan'.visible = false ∧
        (∃ res, (e.run request i (Cache.ofSettings e.settings)).1 = .ok res) ∧
        (e.run { request with filePaths := paths } i (Cache.ofSettings e.settings)).1 =
          .error .tooDeep ∨
      Containment.shallow [] plan.visible = false ∧
        Containment.shallow [] plan'.visible = true ∧
        (e.run request i (Cache.ofSettings e.settings)).1 = .error .tooDeep ∧
        ∃ res, (e.run { request with filePaths := paths } i (Cache.ofSettings e.settings)).1 =
          .ok res) := by
  cases hrun : (e.run request i (Cache.ofSettings e.settings)).1 with
  | ok res =>
    obtain ⟨plan, plan', hplan, hplan', hshallow, ⟨res', hrun'⟩ | ⟨hdeep, hrun'⟩⟩ :=
      exists_ok_or_tooDeep hperm hrun
    · exact .inl (.inr ⟨res, res', rfl, hrun', agrees_of_eq_ok hperm hinj hfiles hrun hrun'⟩)
    · exact .inr ⟨plan, plan', hplan, hplan', .inl ⟨hshallow, hdeep, ⟨res, rfl⟩, hrun'⟩⟩
  | error err =>
    cases hrun' : (e.run { request with filePaths := paths } i
        (Cache.ofSettings e.settings)).1 with
    | error err' => exact .inl (.inl ⟨err, err', rfl, rfl⟩)
    | ok res' =>
      obtain ⟨plan', plan, hplan', hplan, hshallow, ⟨res, hok⟩ | ⟨hdeep, htooDeep⟩⟩ :=
        exists_ok_or_tooDeep hperm.symm hrun'
      · rw [hrun] at hok
        cases hok
      · rw [hrun] at htooDeep
        exact .inr ⟨plan, plan', hplan, hplan', .inr ⟨hdeep, hshallow, htooDeep, res', rfl⟩⟩

/-- The files of the sample in the opposite order: each one stands behind what it imports. -/
theorem order_irrelevant_sample :
    ∃ res res', (ChainSample.engine.run ChainSample.request {} (Cache.ofSettings {})).1 = .ok res ∧
      (ChainSample.engine.run { ChainSample.request with filePaths := ["c.py", "b.py", "a.py"] } {}
        (Cache.ofSettings {})).1 = .ok res' ∧ res.Agrees res' := by
  have hperm : ChainSample.request.filePaths.Perm ["c.py", "b.py", "a.py"] := by
    decide
  have hshallow : (Plan.ofRequest {} { ChainSample.request with
      filePaths := ["c.py", "b.py", "a.py"] }).toOption.any
        (fun plan => Containment.shallow [] plan.visible) = true := by
    decide +kernel
  obtain ⟨s, os, h⟩ := ChainSample.exists_outlined
  obtain ⟨after, hrun⟩ := h.returns
  rcases order_irrelevant ChainSample.engine ChainSample.request {} hperm h.injOn_hashed
      ChainSample.filePath_eq_of_idSource_eq with
    (⟨err, err', herr, -⟩ | ⟨res, res', hrun, hrun', hagrees⟩) |
      ⟨plan, plan', hplan, hplan', ⟨-, hdeep, -⟩ | ⟨hdeep, -⟩⟩
  · cases hrun.symm.trans herr
  · exact ⟨res, res', hrun, hrun', hagrees⟩
  · rw [show Plan.ofRequest {} _ = _ from hplan'] at hshallow
    exact absurd (hdeep.symm.trans hshallow) Bool.false_ne_true
  · have hfirst : Containment.shallow [] ChainSample.outline.visible = true := by
      decide
    rw [← h.visible_eq hplan, hdeep] at hfirst
    cases hfirst

/-- Files of which the second one goes too deep unless it comes after the first one. -/
def deepRequest : Request :=
  { filePaths := [Path.nested 550 "b", Path.nested 1100 "a"] }

/-- In one order the folders are needed by one file after the other, in the other one at once. -/
theorem order_matters :
    (∃ res, (({} : Engine).run deepRequest {} (Cache.ofSettings {})).1 = .ok res) ∧
      (({} : Engine).run { deepRequest with filePaths := deepRequest.filePaths.reverse } {}
        (Cache.ofSettings {})).1 = .error .tooDeep := by
  have hleaves : '/' ∉ "a".toList ∧ '/' ∉ "b".toList := by
    decide
  have hnodup : deepRequest.filePaths.Nodup := by
    refine List.nodup_cons.mpr ⟨fun hmem => ?_, List.nodup_singleton _⟩
    have hsame := Path.nested_inj hleaves.2 hleaves.1 (List.mem_singleton.mp hmem)
    exact absurd hsame.1 (by decide)
  have hnested : ∀ p ∈ deepRequest.filePaths, ∃ n, ∃ leaf ∈ ["a", "b"], p = Path.nested n leaf := by
    intro p hp
    rcases List.mem_cons.mp hp with rfl | hp
    · exact ⟨550, "b", by decide, rfl⟩
    · exact ⟨1100, "a", by decide, List.mem_singleton.mp hp⟩
  constructor
  · obtain ⟨plan, hplan, hvisible, hpending⟩ :=
      Plan.visible_nested deepRequest.filePaths (List.cons_ne_nil _ _) hnodup hnested
    have hshallow : Containment.shallow [] plan.visible = true := by
      rw [hvisible]
      exact Containment.shallow_nested (n := 549) (m := 550) hleaves.2 hleaves.1 (by decide)
        (by decide)
    have hnone : plan.pending.map (fun path => ({} : Engine).outcome plan.selection []
        path (deepRequest.fileContents.getD path "")) = ([] : List FileOutcome).map .ok := by
      rw [hpending]
      rfl
    obtain ⟨after, hiff⟩ := run_eq_ok_iff (prepared_ofSettings {} deepRequest {})
    exact ⟨_, (hiff _).mpr ⟨plan, [], ⟨hplan, hshallow, .inl hpending, rfl, hnone⟩, rfl⟩⟩
  · obtain ⟨plan, hplan, hvisible, -⟩ :=
      Plan.visible_nested deepRequest.filePaths.reverse (List.cons_ne_nil _ _)
        (List.nodup_reverse.mpr hnodup) fun p hp => hnested p (List.mem_reverse.mp hp)
    have hdeep : Containment.shallow [] plan.visible = false := by
      rw [hvisible]
      exact Containment.not_shallow_nested hleaves.1 (by decide) _
    exact run_eq_tooDeep (n := 0) (prepared_ofSettings {} _ {}) hplan rfl hdeep

end Engine

end CodeGraph
