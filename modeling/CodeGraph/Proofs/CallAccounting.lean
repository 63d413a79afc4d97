import CodeGraph.Proofs.CallEdges

/-!
# Every call is counted once

Between the call sites of the parsed files and the graph no call gets lost. Each one moves several
stores: the counter of its state, the list of unresolved calls, and on an edge between two nodes the
lines and the count of calls. These stay in step. A resolved call could only be dropped if its
source or its target had no node; but every file and every registered definition has one.

## Main definitions

* `Engine.callSites`: the call sites of the files that a run parses.
* `Report.callCount`, `Relationship.callCount`: the numbers of calls in report and graph.
* `Calls.edgeCount`: the number of calls that the edges say they stand for.
* `Calls.Accounts`: the stores of calls agree with each other.

## Main results

* `Calls.Accounts.add`: a call keeps the agreement.
* `Stages.Complete.accounts`: the stores of the calls of a run agree.
* `Engine.calls_accounted`: counts, relationships and lines of a run that returns.
-/

namespace CodeGraph

/-! ### What reports and relationships say about calls -/

/-- Number of calls in a state, as reported. -/
def Report.callCount (r : Report) (state : Classification) : Nat :=
  (r.callCounts.lookup state).getD 0

/-- Number of calls that a relationship says it stands for. -/
def Relationship.callCount (r : Relationship) : Nat :=
  match r.properties.get? "callCount" with
  | some (.int n) => n.toNat
  | _ => 0

/-- The call sites of the parsed files. -/
def Stages.callSites (s : Stages) : List CallSite :=
  s.files.flatMap fun f => f.2.callSites

/-- The call sites of the files that a run parses. -/
def Engine.callSites (e : Engine) (request : Request) (i : Interruptions) (cache : Cache) :
    List CallSite :=
  ((e.stages? request i cache).map Stages.callSites).getD []

/-! ### Stores of calls -/

namespace Calls

variable {g : Graph} {fileIds : OrderedMap String String}

/-- Number of calls that the edges say they stand for. -/
def edgeCount (edges : OrderedMap (String × String) CallEdge) : Nat :=
  Count.total (edges.values.map CallEdge.callCount)

/-- One more call is one more line, and counted once more. -/
theorem callCount_withCall (c : ClassifiedCall) (old : Option CallEdge) :
    (withCall c old).callCount = (old.map CallEdge.callCount).getD 0 + 1 := by
  cases old <;> rfl

/-- On an edge with one more call, lines and count grow together. -/
theorem callCount_withCall_eq (c : ClassifiedCall) {old : Option CallEdge}
    (h : ∀ edge, old = some edge → edge.callCount = edge.lines.length) :
    (withCall c old).callCount = (withCall c old).lines.length := by
  cases old with
  | none => rfl
  | some edge =>
    rw [withCall, List.length_append, List.length_singleton, h edge rfl]

/-- A call that joins an edge adds one to what the edges stand for. -/
theorem edgeCount_insert {edges : OrderedMap (String × String) CallEdge} (h : edges.keys.Nodup)
    (key : String × String) (c : ClassifiedCall) :
    edgeCount (edges.insert key (withCall c (edges.get? key))) = edgeCount edges + 1 := by
  have htotal := OrderedMap.total_insert CallEdge.callCount h key (withCall c (edges.get? key))
  rw [callCount_withCall] at htotal
  rw [edgeCount, edgeCount]
  omega

/--
The stores of calls agree: the counters of the four states with the number of calls, the list of
unresolved calls and the counts on the edges, and on each edge the count with the lines.
-/
structure Accounts (calls : Calls) : Prop where
  states : calls.stats.keys = Classification.all
  total : Count.total calls.stats.values = calls.sites.length
  unresolved : calls.unresolved.length = calls.count .unresolved
  nodup : calls.edges.keys.Nodup
  lines : ∀ key edge, calls.edges.get? key = some edge → edge.callCount = edge.lines.length
  resolved : edgeCount calls.edges = calls.count .imported + calls.count .localTarget

/-- Without calls, all counts are zero. -/
theorem accounts_start : Accounts {} :=
  ⟨rfl, rfl, rfl, List.nodup_nil, fun _ _ hget => (nomatch hget), rfl⟩

/-- A call is counted in its state and no other. -/
theorem count_counted (calls : Calls) (c : ClassifiedCall) (state : Classification) :
    (calls.counted c).count state = calls.count state + if c.state = state then 1 else 0 := by
  rw [count, counted, OrderedMap.getD, OrderedMap.get?_increment]
  by_cases hstate : c.state = state
  · rw [if_pos hstate.symm, if_pos hstate, hstate]
    rfl
  · rw [if_neg (Ne.symm hstate), if_neg hstate]
    rfl

/-- Counting a call keeps the four states and adds one to their total. -/
theorem Accounts.counted {calls : Calls} (h : calls.Accounts) (c : ClassifiedCall) :
    (calls.counted c).stats.keys = Classification.all ∧
      Count.total (calls.counted c).stats.values = (calls.counted c).sites.length := by
  have hstate : calls.stats.contains c.state = true := by
    rw [OrderedMap.contains_iff_mem_keys, h.states]
    cases c.state <;> decide
  have hnodup : calls.stats.keys.Nodup := by
    rw [h.states]
    decide
  constructor
  · exact (OrderedMap.keys_insert _ _ _).trans ((if_pos hstate).trans h.states)
  · rw [Calls.counted, OrderedMap.total_increment hnodup, h.total, List.length_append,
      List.length_singleton]

/-- A call keeps the accounts, if it leads from one node to another exactly if it is resolved. -/
theorem Accounts.add {calls : Calls} (h : calls.Accounts) {c : ClassifiedCall}
    (hleads : (c.state = .imported ∨ c.state = .localTarget) ↔ ∃ key, Leads g fileIds c key) :
    (add g fileIds calls c).Accounts := by
  obtain ⟨hstates, htotal⟩ := h.counted c
  have hunresolved := h.unresolved
  have hresolved := h.resolved
  have hcount := calls.count_counted c
  rcases add_cases g fileIds calls c with ⟨hstate, heq⟩ | ⟨hstate, hnone, heq⟩ |
    ⟨hstate, key, hkey, heq⟩ <;> rw [heq]
  case inl =>
    refine ⟨hstates, htotal, ?_, h.nodup, h.lines, ?_⟩
    · have hsame := hcount .unresolved
      rw [if_pos hstate] at hsame
      exact (List.length_append.trans (congrArg (· + 1) hunresolved)).trans hsame.symm
    · have himported := hcount .imported
      have hlocal := hcount .localTarget
      rw [hstate] at himported hlocal
      exact hresolved.trans (congrArg₂ (· + ·) himported hlocal).symm
  case inr.inl =>
    -- the call is neither resolved nor unresolved, and so none of the other stores changes
    have hother : c.state ≠ .imported ∧ c.state ≠ .localTarget :=
      not_or.mp fun hres => (hleads.mp hres).elim hnone
    refine ⟨hstates, htotal, ?_, h.nodup, h.lines, ?_⟩
    · rw [hcount, if_neg hstate]
      exact hunresolved
    · rw [hcount, hcount, if_neg hother.1, if_neg hother.2]
      exact hresolved
  case inr.inr =>
    have hnodup : (calls.edges.insert key (withCall c (calls.edges.get? key))).keys.Nodup :=
      OrderedMap.nodup_keys_insert h.nodup key _
    refine ⟨hstates, htotal, ?_, hnodup, fun key' edge hget => ?_, ?_⟩
    · have hsame := hcount .unresolved
      rw [if_neg hstate] at hsame
      exact hunresolved.trans hsame.symm
    · rw [OrderedMap.get?_insert] at hget
      split at hget
      · obtain rfl := Option.some.inj hget
        exact callCount_withCall_eq c fun edge hold => h.lines key edge hold
      · exact h.lines key' edge hget
    · refine (edgeCount_insert h.nodup key c).trans ?_
      show _ = (calls.counted c).count .imported + (calls.counted c).count .localTarget
      rw [hcount, hcount, hresolved]
      rcases hleads.mpr ⟨key, hkey⟩ with hres | hres <;>
        simp only [hres, reduceCtorEq, if_true, if_false] <;> omega

/-! ### Relationships -/

/-- The relationships of calls connect different pairs of nodes. -/
theorem Accounts.nodup_ends {calls : Calls} (h : calls.Accounts) :
    (calls.relationships.map fun r => (r.source, r.target)).Nodup := by
  rw [relationships, List.map_map]
  exact h.nodup

/-- A relationship of calls has a line for each call it counts. -/
theorem Accounts.exists_lines {calls : Calls} (h : calls.Accounts) {r : Relationship}
    (hr : r ∈ calls.relationships) :
    ∃ lines : List Int, r.properties.get? "lines" = some (.ints lines) ∧
      r.properties.get? "callCount" = some (.int lines.length) := by
  obtain ⟨⟨⟨source, target⟩, edge⟩, hedge, rfl⟩ := List.mem_map.mp hr
  have hlines := h.lines _ edge (OrderedMap.get?_of_mem_toList h.nodup hedge)
  refine ⟨edge.lines, rfl, ?_⟩
  rw [← hlines]
  rfl

/-- All calls that relationships count are those on the edges. -/
theorem total_callCount (calls : Calls) :
    Count.total (calls.relationships.map Relationship.callCount) = edgeCount calls.edges := by
  rw [relationships, edgeCount, OrderedMap.values, List.map_map, List.map_map]
  rfl

end Calls

/-! ### Calls of a run -/

namespace Stages

variable {s : Stages} {os : List FileOutcome} {e : Engine}

/-- Every call site is classified. -/
theorem length_sites (s : Stages) (e : Engine) :
    (s.links e).calls.sites.length = s.callSites.length := by
  have hperm : (ParsedFiles.sorted s.parsing.parsed).Perm s.files := ParsedFiles.sorted_perm _
  have hsites := (hperm.flatMap_right fun f => f.2.callSites).length_eq
  rw [sites_links, callSites, ← hsites, CallContext.classified, List.length_flatMap,
    List.length_flatMap]
  simp only [List.length_map]

/-- A call leads from one node to another exactly if it is resolved. -/
theorem Complete.resolved_iff_leads (h : s.Complete os) {c : ClassifiedCall}
    (hc : c ∈ (s.links e).calls.sites) : (c.state = .imported ∨ c.state = .localTarget) ↔
      ∃ key, Calls.Leads s.parsing.inventory.graph s.skeleton.fileIds c key := by
  obtain ⟨f, -, -, hstate, htarget⟩ := exists_of_mem_sites hc
  have hresolved : c.target.isSome = true ↔ c.state = .imported ∨ c.state = .localTarget := by
    rw [hstate, htarget]
    exact CallContext.isSome_classify_iff _ _ _
  rw [← hresolved]
  refine ⟨h.leads hc, ?_⟩
  rintro ⟨key, d, hd, -⟩
  rw [hd]
  rfl

/-- The stores of the calls of a run agree. -/
theorem Complete.accounts (h : s.Complete os) (e : Engine) : (s.links e).calls.Accounts := by
  have hsites := s.sites_links e
  rw [calls_links]
  refine Calls.ofFiles_induction Calls.accounts_start fun calls c hc hcalls => hcalls.add ?_
  rw [← hsites] at hc
  exact h.resolved_iff_leads hc

/-- The relationships of calls in the graph are those of the classified calls. -/
theorem Complete.calls_eq (h : s.Complete os) (hinj : s.Injective e) :
    (s.graph e).ofKind .calls = (s.links e).calls.relationships :=
  h.ofKind_eq hinj (s.filter_offered_calls e) (h.accounts e).nodup_ends

end Stages

/--
No call of a run is lost or counted twice. The four counts of the report add up to the call sites of
the parsed files, and the unresolved ones are listed; there is one relationship of calls between two
nodes, with a line for each call it counts; and all relationships together count the calls that were
resolved, through imports or in their files.
-/
theorem Engine.calls_accounted (e : Engine) (request : Request) (i : Interruptions) {cache : Cache}
    (hcache : cache.Reachable) {res : IngestResult} (hrun : (e.run request i cache).1 = .ok res)
    (hinj : Set.InjOn Identifier.digest {t | t ∈ e.hashed request i cache}) :
    res.report.callCounts.map Prod.fst = Classification.all ∧
    Count.total (res.report.callCounts.map Prod.snd) = (e.callSites request i cache).length ∧
    res.report.unresolvedCalls.length = res.report.callCount .unresolved ∧
    ((res.store.graph.ofKind .calls).map fun r => (r.source, r.target)).Nodup ∧
    (∀ r ∈ res.store.graph.ofKind .calls, ∃ lines : List Int,
      r.properties.get? "lines" = some (.ints lines) ∧
      r.properties.get? "callCount" = some (.int lines.length)) ∧
    Count.total ((res.store.graph.ofKind .calls).map Relationship.callCount) =
      res.report.callCount .imported + res.report.callCount .localTarget := by
  obtain ⟨s, os, after, hstages, rfl, -, hs, rfl⟩ := Engine.exists_complete hcache.sound hrun
  have hinj' : s.Injective e := Stages.injective_of_hashed hstages hinj
  have haccounts := hs.accounts e
  have hcalls := hs.calls_eq hinj'
  refine ⟨haccounts.states, ?_, haccounts.unresolved, hcalls ▸ haccounts.nodup_ends,
    fun r hr => haccounts.exists_lines (hcalls ▸ hr), ?_⟩
  · rw [Engine.callSites, hstages, Option.map_some, Option.getD_some, ← s.length_sites e]
    exact haccounts.total
  · exact ((congrArg (fun rs => Count.total (rs.map Relationship.callCount)) hcalls).trans
      (Calls.total_callCount _)).trans haccounts.resolved

/-- The call sites of a run with an outline are those of its sources. -/
theorem Stages.Outlined.callSites_files {s : Stages} {os : List FileOutcome} {e : Engine}
    {l : Language} {files : List SourceFile} {request : Request} {o : Outline}
    (h : s.Outlined os e l files request o) :
    e.callSites request {} (Cache.ofSettings e.settings) =
      files.flatMap fun f => (f.parsed e l).callSites := by
  rw [Engine.callSites, h.stages, Option.map_some, Option.getD_some, Stages.callSites, h.files_eq,
    List.flatMap_map]

/-- The one call of the sample, along two imports, is counted once and has its relationship. -/
theorem Engine.calls_accounted_sample :
    ∃ res, (ChainSample.engine.run ChainSample.request {} (Cache.ofSettings {})).1 = .ok res ∧
      Count.total (res.report.callCounts.map Prod.snd) = 1 ∧
      Count.total ((res.store.graph.ofKind .calls).map Relationship.callCount) =
        res.report.callCount .imported + res.report.callCount .localTarget := by
  obtain ⟨s, os, h⟩ := ChainSample.exists_outlined
  obtain ⟨after, hrun⟩ := h.returns
  obtain ⟨-, htotal, -, -, -, hcounts⟩ :=
    Engine.calls_accounted _ _ _ (Cache.reachable_ofSettings {}) hrun h.injOn_hashed
  have hsites : ChainSample.engine.callSites ChainSample.request {} (Cache.ofSettings {}) =
      ChainSample.files.flatMap fun f => (f.parsed ChainSample.engine .python).callSites :=
    h.callSites_files
  have hone : (ChainSample.files.flatMap fun f =>
      (f.parsed ChainSample.engine .python).callSites).length = 1 := by
    decide +kernel
  rw [hsites, hone] at htotal
  exact ⟨_, hrun, htotal, hcounts⟩

end CodeGraph
