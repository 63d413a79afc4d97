import CodeGraph.Call
import CodeGraph.Proofs.Import

/-!
# Where calls lead

The target of a call is a callable definition that was entered. A call that is resolved in its own
file stays there, and one that is resolved through imports leads along a bounded number of hops
between files, each of which the import map has.

## Main definitions

* `Steps`: a number of steps of a relation one after the other.
* `Symbols.Follows`: a relation that holds wherever the import map leads.
* `Calls.Leads`, `Calls.Joined`: where a call leads, and edges that are between such nodes.

## Main results

* `Symbols.within_of_search`: what a search finds is as many hops away as it may take.
* `CallContext.beyond_of_throughImports?`, `CallContext.mem_of_sameFile?`: targets of calls.
* `CallContext.classify_cases`: the four states of a call with what they mean.
* `Calls.add_cases`: a call is counted, and left unresolved, dropped, or added to an edge.
* `Calls.ofFiles_induction`: what each call keeps holds of the calls of parsed files.
* `Calls.joined_ofFiles`: the edges are between the nodes that calls lead from and to.
-/

namespace CodeGraph

/-- A number of steps of a relation one after the other. -/
inductive Steps {α : Type} (R : α → α → Prop) : Nat → α → α → Prop
  | refl (a : α) : Steps R 0 a a
  | step {n : Nat} {a b c : α} : R a b → Steps R n b c → Steps R (n + 1) a c

/-- Steps of one relation are steps of another along a map. -/
theorem Steps.map {α β : Type} {R : α → α → Prop} {Q : β → β → Prop} (f : α → β)
    (h : ∀ a b, R a b → Q (f a) (f b)) {n : Nat} {a b : α} (hs : Steps R n a b) :
    Steps Q n (f a) (f b) := by
  induction hs with
  | refl a => exact .refl (f a)
  | step hab _ ih => exact .step (h _ _ hab) ih

/-- A step may follow after the others. -/
theorem Steps.snoc {α : Type} {R : α → α → Prop} {n : Nat} {a b c : α} (h : Steps R n a b)
    (hbc : R b c) : Steps R (n + 1) a c := by
  induction h with
  | refl a => exact .step hbc (.refl c)
  | step hab _ ih => exact .step hab (ih hbc)

namespace Symbols

variable {s : Symbols} {files : List String} {ds : List Definition}

/-! ### Definitions of a file -/

/-- A callable of a file is entered. -/
theorem mem_of_mem_callables (h : s.registry.Holds files ds) {path name : String} {d : Definition}
    (hd : d ∈ s.callables path name) :
    d ∈ ds ∧ d.filePath = path ∧ d.kind.isCallable = true := by
  obtain ⟨hmem, hcallable⟩ := List.mem_filter.mp (Sorting.mem_sort.mp hd)
  obtain ⟨⟨hds, hpath⟩, -⟩ := h.mem_namedIn.mp hmem
  exact ⟨hds, hpath, hcallable⟩

/-- A method of a class of a file is entered. -/
theorem mem_of_mem_methodsOf (h : s.registry.Holds files ds) {path className name : String}
    {d : Definition} (hd : d ∈ s.methodsOf path className name) :
    d ∈ ds ∧ d.filePath = path ∧ d.kind.isCallable = true := by
  obtain ⟨hmem, hfilter⟩ := List.mem_filter.mp (Sorting.mem_sort.mp hd)
  rw [Bool.and_eq_true, decide_eq_true_iff] at hfilter
  exact ⟨h.mem_of_mem_qualified hmem, hfilter⟩

/-- What a file itself holds is entered. -/
theorem mem_of_held? (h : s.registry.Holds files ds) {path : String} {e : Export} {d : Definition}
    (hd : s.held? path e = some d) : d ∈ ds ∧ d.filePath = path ∧ d.kind.isCallable = true := by
  cases e with
  | named name =>
    exact mem_of_mem_callables h (List.mem_of_mem_filter (List.mem_of_head? hd))
  | default =>
    obtain ⟨hmem, hfilter⟩ := List.mem_filter.mp (List.mem_of_head? hd)
    obtain ⟨hds, hpath⟩ := h.mem_inFile.mp hmem
    rw [Bool.and_eq_true] at hfilter
    exact ⟨hds, hpath, hfilter.2⟩

/-! ### Searching through imports -/

/-- A relation that holds between files wherever the import map leads. -/
structure Follows (s : Symbols) (R : String → String → Prop) : Prop where
  binding : ∀ path name b, s.imports.binding? path name = some b → R path b.targetFile
  wildcard : ∀ path target, target ∈ s.imports.wildcards path → R path target

/-- A definition that is entered, callable, and within some hops of a file. -/
def Within (ds : List Definition) (R : String → String → Prop) (hops : Nat) (path : String)
    (d : Definition) : Prop :=
  d ∈ ds ∧ d.kind.isCallable = true ∧ ∃ n ≤ hops, Steps R n path d.filePath

/-- A definition that is entered, callable, and at least one but at most some hops away. -/
def Beyond (ds : List Definition) (R : String → String → Prop) (hops : Nat) (path : String)
    (d : Definition) : Prop :=
  d ∈ ds ∧ d.kind.isCallable = true ∧ ∃ n, 1 ≤ n ∧ n ≤ hops ∧ Steps R n path d.filePath

section Distance

variable {R : String → String → Prop} {hops : Nat} {path next : String} {d : Definition}

/-- One hop further away. -/
theorem Within.hop (hnext : R path next) (h : Within ds R hops next d) :
    Beyond ds R (hops + 1) path d := by
  obtain ⟨hds, hcallable, n, hn, hsteps⟩ := h
  exact ⟨hds, hcallable, n + 1, Nat.le_add_left 1 n, Nat.succ_le_succ hn, .step hnext hsteps⟩

theorem Beyond.within (h : Beyond ds R hops path d) : Within ds R hops path d := by
  obtain ⟨hds, hcallable, n, -, hn, hsteps⟩ := h
  exact ⟨hds, hcallable, n, hn, hsteps⟩

theorem Beyond.mono {limit : Nat} (hlimit : hops ≤ limit) (h : Beyond ds R hops path d) :
    Beyond ds R limit path d := by
  obtain ⟨hds, hcallable, n, hone, hn, hsteps⟩ := h
  exact ⟨hds, hcallable, n, hone, Nat.le_trans hn hlimit, hsteps⟩

/-- A callable of the same file is as far away. -/
theorem Beyond.sameFile {d' : Definition} (h : Beyond ds R hops path d) (hds : d' ∈ ds)
    (hpath : d'.filePath = d.filePath) (hcallable : d'.kind.isCallable = true) :
    Beyond ds R hops path d' := by
  obtain ⟨-, -, n, hone, hn, hsteps⟩ := h
  exact ⟨hds, hcallable, n, hone, hn, hpath ▸ hsteps⟩

end Distance

/-- What is found from one of several starting points is found from one of them. -/
theorem exists_of_firstFound {search : List Visit → String → Option Definition × List Visit}
    {paths : List String} {visited : List Visit} {d : Definition}
    (h : (firstFound search visited paths).1 = some d) :
    ∃ path ∈ paths, ∃ visited, (search visited path).1 = some d := by
  induction paths generalizing visited with
  | nil => cases h
  | cons path paths ih =>
    unfold firstFound at h
    split at h
    · next d' visited' hfound =>
      obtain rfl : d' = d := Option.some.inj h
      exact ⟨path, List.mem_cons_self, visited, by rw [hfound]⟩
    · obtain ⟨path', hmem, hfound⟩ := ih h
      exact ⟨path', List.mem_cons_of_mem path hmem, hfound⟩

/-- What a search finds is entered, callable, and not further away than the search may go. -/
theorem within_of_search (h : s.registry.Holds files ds) {R : String → String → Prop}
    (hR : s.Follows R) {hops : Nat} {visited : List Visit} {path : String} {e : Export}
    {d : Definition} (hd : (s.search hops visited path e).1 = some d) :
    Within ds R hops path d := by
  have hheld : ∀ {hops path e}, s.held? path e = some d → Within ds R hops path d := by
    intro hops path e hheld
    obtain ⟨hds, rfl, hcallable⟩ := mem_of_held? h hheld
    exact ⟨hds, hcallable, 0, Nat.zero_le _, .refl _⟩
  induction hops generalizing visited path e with
  | zero =>
    unfold search at hd
    split at hd
    · cases hd
    · exact hheld hd
  | succ hops ih =>
    unfold search at hd
    split at hd
    · cases hd
    · dsimp only at hd
      split at hd
      · next d' hd' =>
        obtain rfl : d' = d := Option.some.inj hd
        exact hheld hd'
      · split at hd
        · next d' hfound =>
          -- the name is bound, and the binding is followed
          obtain rfl : d' = d := Option.some.inj hd
          cases hb : s.imports.binding? path e.key with
          | none =>
            rw [hb] at hfound
            cases hfound
          | some b =>
            rw [hb] at hfound
            exact ((ih hfound).hop (hR.binding path e.key b hb)).within
        · obtain ⟨next, hnext, _, hfound⟩ := exists_of_firstFound hd
          refine ((ih hfound).hop (hR.wildcard path next ?_)).within
          cases e with
          | named name => exact hnext
          | default => cases hnext

/-- What stands behind a binding is one hop further away than the binding's target. -/
theorem beyond_of_follow (h : s.registry.Holds files ds) {R : String → String → Prop}
    (hR : s.Follows R) {hops : Nat} {path : String} {b : ImportBinding} (hb : R path b.targetFile)
    {d : Definition} (hd : s.follow hops b = some d) : Beyond ds R (hops + 1) path d :=
  (within_of_search h hR hd).hop hb

end Symbols

/-! ### Calls -/

namespace CallContext

variable {c : CallContext} {files : List String} {ds : List Definition}
variable {R : String → String → Prop}

open Symbols (Within Beyond)

/-- A call without receiver that is resolved through imports leads to another file. -/
theorem beyond_of_importedFunction? (h : c.registry.Holds files ds) (hR : c.Follows R)
    {path name : String} {d : Definition} (hd : c.importedFunction? path name = some d) :
    Beyond ds R (c.maxHops + 1) path d := by
  unfold importedFunction? at hd
  split at hd
  · next b hb => exact Symbols.beyond_of_follow h hR (hR.binding path name b hb) hd
  · obtain ⟨target, htarget, hfound⟩ := List.exists_of_findSome?_eq_some hd
    exact ((Symbols.within_of_search h hR hfound).hop (hR.wildcard path target htarget)).mono
      (by omega)

/-- The method of a class behind a binding is as far away as the class. -/
theorem beyond_of_methodThrough? (h : c.registry.Holds files ds) (hR : c.Follows R)
    {path name : String} {b : ImportBinding} (hb : R path b.targetFile) {d : Definition}
    (hd : c.methodThrough? b name = some d) : Beyond ds R (c.maxHops + 1) path d := by
  unfold methodThrough? at hd
  split at hd
  · next owner howner =>
    split at hd
    · obtain ⟨hds, hpath, hcallable⟩ := Symbols.mem_of_mem_methodsOf h (List.mem_of_head? hd)
      exact (Symbols.beyond_of_follow h hR hb howner).sameFile hds hpath hcallable
    · cases hd
  · cases hd

/-- A call on an imported receiver leads to another file. -/
theorem beyond_of_memberThrough? (h : c.registry.Holds files ds) (hR : c.Follows R)
    {path name : String} {b : ImportBinding} (hb : R path b.targetFile) {d : Definition}
    (hd : c.memberThrough? b name = some d) : Beyond ds R (c.maxHops + 1) path d := by
  unfold memberThrough? at hd
  split at hd
  · exact (Symbols.within_of_search h hR hd).hop hb
  · rcases eq_some_or_of_orElse hd with hd | hd
    · exact (Symbols.within_of_search h hR hd).hop hb
    · exact beyond_of_methodThrough? h hR hb hd
  · exact beyond_of_methodThrough? h hR hb hd
  · exact beyond_of_methodThrough? h hR hb hd

/-- A call on a receiver that is resolved through imports leads to another file. -/
theorem beyond_of_importedMember? (h : c.registry.Holds files ds) (hR : c.Follows R)
    {path receiver name : String} {d : Definition}
    (hd : c.importedMember? path receiver name = some d) :
    Beyond ds R (c.maxHops + 1) path d := by
  unfold importedMember? at hd
  split at hd
  · cases hd
  · split at hd
    · next b hb => exact beyond_of_memberThrough? h hR (hR.binding path _ b hb) hd
    · obtain ⟨owner, howner, hd⟩ := Option.bind_eq_some_iff.mp hd
      obtain ⟨target, htarget, hfound⟩ := List.exists_of_findSome?_eq_some howner
      obtain ⟨⟨-, rfl⟩, -⟩ := h.mem_namedIn.mp (List.mem_of_find?_eq_some hfound)
      obtain ⟨hds, hpath, hcallable⟩ := Symbols.mem_of_mem_methodsOf h (List.mem_of_head? hd)
      have hsteps : Steps R 1 path d.filePath := by
        rw [hpath]
        exact .step (hR.wildcard path _ htarget) (.refl _)
      exact ⟨hds, hcallable, 1, Nat.le_refl 1, Nat.le_add_left 1 _, hsteps⟩

/-- A call that is resolved through imports leads to another file. -/
theorem beyond_of_throughImports? (h : c.registry.Holds files ds) (hR : c.Follows R)
    {site : CallSite} {d : Definition} (hd : c.throughImports? site = some d) :
    Beyond ds R (c.maxHops + 1) site.filePath d := by
  unfold throughImports? at hd
  split at hd
  · exact beyond_of_importedFunction? h hR hd
  · exact beyond_of_importedMember? h hR hd

/-- A call that is resolved in its own file stays there. -/
theorem mem_of_sameFile? (h : c.registry.Holds files ds) {site : CallSite} {d : Definition}
    (hd : c.sameFile? site = some d) :
    d ∈ ds ∧ d.filePath = site.filePath ∧ d.kind.isCallable = true := by
  have hsibling : c.siblingMethod? site = some d →
      d ∈ ds ∧ d.filePath = site.filePath ∧ d.kind.isCallable = true := by
    intro hd
    obtain ⟨className, -, hd⟩ := Option.bind_eq_some_iff.mp hd
    exact Symbols.mem_of_mem_methodsOf h (List.mem_of_head? hd)
  unfold sameFile? at hd
  dsimp only at hd
  split at hd
  · rcases eq_some_or_of_orElse hd with hd | hd
    · exact Symbols.mem_of_mem_callables h (List.mem_of_mem_filter (List.mem_of_head? hd))
    · exact hsibling hd
  · split at hd
    · rcases eq_some_or_of_orElse hd with hd | hd
      · exact hsibling hd
      · exact Symbols.mem_of_mem_callables h (List.mem_of_head? hd)
    · obtain ⟨owner, -, hd⟩ := Option.bind_eq_some_iff.mp hd
      exact Symbols.mem_of_mem_methodsOf h (List.mem_of_head? hd)

/-- What the state of a call says about its target. -/
theorem classify_cases (h : c.registry.Holds files ds) (hR : c.Follows R) (language : String)
    (site : CallSite) {d : Definition} (hd : (c.classify language site).2 = some d) :
    d ∈ ds ∧ d.kind.isCallable = true ∧
      ((c.classify language site).1 = .imported ∧
          Beyond ds R (c.maxHops + 1) site.filePath d ∨
        (c.classify language site).1 = .localTarget ∧ d.filePath = site.filePath) := by
  unfold classify at hd ⊢
  split
  · next hbuiltin =>
    rw [if_pos hbuiltin] at hd
    cases hd
  · next hbuiltin =>
    rw [if_neg hbuiltin] at hd
    cases himport : c.throughImports? site with
    | some d' =>
      rw [himport] at hd
      obtain rfl : d' = d := Option.some.inj hd
      have hbeyond := beyond_of_throughImports? h hR himport
      exact ⟨hbeyond.1, hbeyond.2.1, .inl ⟨rfl, hbeyond⟩⟩
    | none =>
      rw [himport] at hd
      cases hlocal : c.sameFile? site with
      | some d' =>
        rw [hlocal] at hd
        obtain rfl : d' = d := Option.some.inj hd
        obtain ⟨hds, hpath, hcallable⟩ := mem_of_sameFile? h hlocal
        exact ⟨hds, hcallable, .inr ⟨rfl, hpath⟩⟩
      | none =>
        rw [hlocal] at hd
        cases hd

/-- A call has a target exactly if it is resolved, through imports or in its file. -/
theorem isSome_classify_iff (c : CallContext) (language : String) (site : CallSite) :
    (c.classify language site).2.isSome = true ↔
      (c.classify language site).1 = .imported ∨ (c.classify language site).1 = .localTarget := by
  by_cases hbuiltin : c.isBuiltin language site = true
  · simp [classify, hbuiltin]
  · cases himport : c.throughImports? site with
    | some d => simp [classify, hbuiltin, himport]
    | none =>
      cases hlocal : c.sameFile? site with
      | some d => simp [classify, hbuiltin, himport, hlocal]
      | none => simp [classify, hbuiltin, himport, hlocal]

end CallContext

/-! ### Edges -/

namespace Calls

variable {g : Graph} {fileIds : OrderedMap String String}

/-- A call leads from one node to another. -/
def Leads (g : Graph) (fileIds : OrderedMap String String) (c : ClassifiedCall)
    (key : String × String) : Prop :=
  ∃ d, c.target = some d ∧ sourceId? g fileIds c = some key.1 ∧ d.nodeId = key.2 ∧
    g.hasNode d.nodeId = true

/-- A call leads from one node to one other. -/
theorem Leads.unique {c : ClassifiedCall} {key key' : String × String} (h : Leads g fileIds c key)
    (h' : Leads g fileIds c key') : key = key' := by
  obtain ⟨d, hd, hsource, hid, -⟩ := h
  obtain ⟨d', hd', hsource', hid', -⟩ := h'
  obtain rfl := Option.some.inj (hd.symm.trans hd')
  exact Prod.ext (Option.some.inj (hsource.symm.trans hsource')) (hid.symm.trans hid')

/-- What two nodes have between them after one more call. -/
def withCall (c : ClassifiedCall) : Option CallEdge → CallEdge
  | none => ⟨c.state, c.site.calledName, [c.site.line], 1⟩
  | some edge =>
    { edge with lines := edge.lines ++ [c.site.line], callCount := edge.callCount + 1 }

/-- A call that leads somewhere joins the edge it belongs to, and any other one changes nothing. -/
theorem addEdge_cases (g : Graph) (fileIds : OrderedMap String String)
    (edges : OrderedMap (String × String) CallEdge) (c : ClassifiedCall) :
    (addEdge g fileIds edges c = edges ∧ ∀ key, ¬Leads g fileIds c key) ∨
      ∃ key, Leads g fileIds c key ∧
        addEdge g fileIds edges c = edges.insert key (withCall c (edges.get? key)) := by
  unfold addEdge
  split
  · next d source hd hsource =>
    split
    · next hnode =>
      refine .inr ⟨(source, d.nodeId), ⟨d, hd, hsource, rfl, hnode⟩, ?_⟩
      dsimp only
      split
      · next hnone => rw [hnone, withCall]
      · next old hold => rw [hold, withCall]
    · next hnode =>
      refine .inl ⟨rfl, fun key hleads => ?_⟩
      obtain ⟨d', hd', -, -, hnode'⟩ := hleads
      obtain rfl : d = d' := Option.some.inj (hd.symm.trans hd')
      exact hnode hnode'
  · next hnone =>
    refine .inl ⟨rfl, fun key hleads => ?_⟩
    obtain ⟨d, hd, hsource, -, -⟩ := hleads
    exact hnone d key.1 hd hsource

/-- A call is counted in its state. -/
def counted (calls : Calls) (c : ClassifiedCall) : Calls :=
  { calls with sites := calls.sites ++ [c], stats := calls.stats.increment c.state }

/--
Besides being counted, a call is left unresolved, or it leads nowhere, or it joins the edge to where
it leads.
-/
theorem add_cases (g : Graph) (fileIds : OrderedMap String String) (calls : Calls)
    (c : ClassifiedCall) :
    (c.state = .unresolved ∧ add g fileIds calls c =
      { calls.counted c with unresolved := calls.unresolved ++ [c.leftOver] }) ∨
    (c.state ≠ .unresolved ∧ (∀ key, ¬Leads g fileIds c key) ∧
      add g fileIds calls c = calls.counted c) ∨
    (c.state ≠ .unresolved ∧ ∃ key, Leads g fileIds c key ∧ add g fileIds calls c =
      { calls.counted c with
        edges := calls.edges.insert key (withCall c (calls.edges.get? key)) }) := by
  unfold add
  by_cases hstate : c.state = .unresolved
  · rw [if_pos hstate]
    exact .inl ⟨hstate, rfl⟩
  · rw [if_neg hstate]
    rcases addEdge_cases g fileIds calls.edges c with
      ⟨heq, hnone⟩ | ⟨key, hleads, heq⟩ <;> rw [heq]
    · exact .inr (.inl ⟨hstate, hnone, rfl⟩)
    · exact .inr (.inr ⟨hstate, key, hleads, rfl⟩)

/-- Every call is kept, whatever becomes of it. -/
theorem sites_add (g : Graph) (fileIds : OrderedMap String String) (calls : Calls)
    (c : ClassifiedCall) : (add g fileIds calls c).sites = calls.sites ++ [c] := by
  rcases add_cases g fileIds calls c with ⟨-, heq⟩ | ⟨-, -, heq⟩ | ⟨-, _, -, heq⟩ <;>
    rw [heq] <;> rfl

/-- What holds at the start, and is kept by each call, holds of the calls of parsed files. -/
theorem ofFiles_induction {P : Calls → Prop} {ctx : CallContext} {parsed : ParsedFiles}
    (hstart : P {}) (hstep : ∀ calls, ∀ c ∈ ctx.classified parsed, P calls →
      P (add g fileIds calls c)) : P (ofFiles ctx g fileIds parsed) :=
  List.foldlRecOn _ _ hstart fun calls hcalls c hc => hstep calls c hc hcalls

/-- The calls of parsed files are their classified calls. -/
theorem sites_ofFiles (ctx : CallContext) (g : Graph) (fileIds : OrderedMap String String)
    (parsed : ParsedFiles) : (ofFiles ctx g fileIds parsed).sites = ctx.classified parsed :=
  foldl_prefix_induction (P := fun before (calls : Calls) => calls.sites = before) rfl
    fun before c _ calls hcalls => by rw [sites_add, hcalls]

/-! ### Edges stem from calls -/

/-- Where an edge between two nodes comes from. -/
def Stems (g : Graph) (fileIds : OrderedMap String String) (sites : List ClassifiedCall)
    (key : String × String) (edge : CallEdge) : Prop :=
  ∃ c ∈ sites, ∃ d, c.target = some d ∧ sourceId? g fileIds c = some key.1 ∧
    d.nodeId = key.2 ∧ g.hasNode d.nodeId = true ∧ edge.state = c.state

/-- An edge that stems from some calls stems from more of them. -/
theorem Stems.mono {sites sites' : List ClassifiedCall} {key : String × String} {edge : CallEdge}
    (h : Stems g fileIds sites key edge) (hsub : sites ⊆ sites') :
    Stems g fileIds sites' key edge := by
  obtain ⟨c, hc, hrest⟩ := h
  exact ⟨c, hsub hc, hrest⟩

/-- The edges are between different nodes: where a call leads, and nowhere else. -/
structure Joined (g : Graph) (fileIds : OrderedMap String String) (calls : Calls) : Prop where
  nodup : calls.edges.keys.Nodup
  stems : ∀ key edge, calls.edges.get? key = some edge → Stems g fileIds calls.sites key edge
  covers : ∀ c ∈ calls.sites, c.state ≠ .unresolved → ∀ key, Leads g fileIds c key →
    calls.edges.contains key = true

theorem joined_start : Joined g fileIds {} :=
  ⟨List.nodup_nil, fun _ _ hget => (nomatch hget), fun _ hc => (nomatch hc)⟩

/-- One more call keeps the edges joined. -/
theorem Joined.add {calls : Calls} (h : Joined g fileIds calls) (c : ClassifiedCall) :
    Joined g fileIds (Calls.add g fileIds calls c) := by
  have hsub : calls.sites ⊆ calls.sites ++ [c] := List.subset_append_left _ _
  have hlast : ∀ {c'}, c' ∈ calls.sites ++ [c] → c' ∈ calls.sites ∨ c' = c := fun hc' =>
    (List.mem_append.mp hc').imp_right List.mem_singleton.mp
  rcases add_cases g fileIds calls c with ⟨hstate, heq⟩ | ⟨-, hnone, heq⟩ |
    ⟨-, key, hleads, heq⟩ <;> rw [heq]
  · refine ⟨h.nodup, fun key edge hget => (h.stems key edge hget).mono hsub,
      fun c' hc' hstate' => ?_⟩
    rcases hlast hc' with hc' | rfl
    · exact h.covers c' hc' hstate'
    · exact absurd hstate hstate'
  · refine ⟨h.nodup, fun key edge hget => (h.stems key edge hget).mono hsub,
      fun c' hc' hstate' key hleads => ?_⟩
    rcases hlast hc' with hc' | rfl
    · exact h.covers c' hc' hstate' key hleads
    · exact absurd hleads (hnone key)
  · refine ⟨OrderedMap.nodup_keys_insert h.nodup key _, fun key' edge hget => ?_,
      fun c' hc' hstate' key' hleads' => ?_⟩
    · rw [OrderedMap.get?_insert] at hget
      split at hget
      · next hkey =>
        subst hkey
        obtain rfl := Option.some.inj hget
        cases hold : calls.edges.get? key' with
        | none =>
          obtain ⟨d, hd, hsource, hid, hnode⟩ := hleads
          exact ⟨c, List.mem_append_right _ List.mem_cons_self, d, hd, hsource, hid, hnode, rfl⟩
        | some old => exact (h.stems key' old hold).mono hsub
      · exact (h.stems key' edge hget).mono hsub
    · rw [OrderedMap.contains, OrderedMap.get?_insert]
      split
      · rfl
      · next hkey =>
        rcases hlast hc' with hc' | rfl
        · exact h.covers c' hc' hstate' key' hleads'
        · exact absurd (hleads'.unique hleads) hkey

/-- The edges of the calls of parsed files are joined. -/
theorem joined_ofFiles (ctx : CallContext) (g : Graph) (fileIds : OrderedMap String String)
    (parsed : ParsedFiles) : Joined g fileIds (ofFiles ctx g fileIds parsed) :=
  ofFiles_induction joined_start fun _ c _ h => h.add c

/-- A relationship of calls comes from a classified call. -/
theorem Joined.exists_of_mem_relationships {calls : Calls} (h : Joined g fileIds calls)
    {rel : Relationship} (hrel : rel ∈ calls.relationships) :
    ∃ edge : CallEdge, rel = .between .calls rel.source rel.target edge.properties ∧
      Stems g fileIds calls.sites (rel.source, rel.target) edge := by
  obtain ⟨⟨⟨source, target⟩, edge⟩, hmem, rfl⟩ := List.mem_map.mp hrel
  exact ⟨edge, rfl, h.stems _ edge (OrderedMap.get?_of_mem_toList h.nodup hmem)⟩

/-- A call that leads from one node to another has a relationship between them. -/
theorem Joined.exists_relationship {calls : Calls} (h : Joined g fileIds calls)
    {c : ClassifiedCall} (hc : c ∈ calls.sites) (hstate : c.state ≠ .unresolved)
    {key : String × String} (hleads : Leads g fileIds c key) :
    ∃ r ∈ calls.relationships, r.kind = .calls ∧ r.source = key.1 ∧ r.target = key.2 := by
  obtain ⟨edge, hedge⟩ := Option.isSome_iff_exists.mp (h.covers c hc hstate key hleads)
  exact ⟨_, List.mem_map_of_mem (OrderedMap.mem_toList_of_get? hedge), rfl, rfl, rfl⟩

end Calls

end CodeGraph
