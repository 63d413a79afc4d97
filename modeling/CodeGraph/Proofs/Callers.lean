import CodeGraph.Proofs.Captures
import CodeGraph.Proofs.Extraction
import CodeGraph.Proofs.SyntaxTree

/-!
# The caller of a call

The caller of a call site is found without the tree: of the functions, methods and classes of the
file, the smallest one whose range holds the first byte of the call. In a tree with nested ranges
this is the nearest ancestor of the call that some query took for a function, a method or a class.

Definitions below the call are the exception. Nothing but their ranges tells them from ancestors, so
one that starts where the call starts is taken for the caller. The node of the call itself is no
such definition: the queries for calls and those for callers search for nodes of different kinds.

## Main definitions

* `Pattern.entityKind?`: the kind of the nodes that a pattern captures as an entity.
* `SourceTree.declarations`: what the queries declare, each with its node.
* `SourceTree.matchedCalls`: what the query for calls matches.
* `SourceTree.callerNodes`: the nodes of functions, methods and classes.
* `SourceTree.nearestCaller?`: the nearest of them around a node.

## Main results

* `Query.exists_of_mem_run`: the node that a match captures has a kind of the patterns.
* `SourceTree.keptCalls_eq_fresh`: the calls with call sites are the first ones of each byte and
  name.
* `SourceTree.exists_caller`, `SourceTree.exists_callerNode`: callers and their nodes.
* `ParsedFile.caller_nearest`: the caller of a call site is the nearest one around it.
-/

namespace CodeGraph

/-! ### Captured nodes -/

/-- The kind of the nodes that a pattern captures as an entity, if they are its own nodes. -/
def Pattern.entityKind? : Pattern → Option String
  | mk kind _ _ capture _ => if capture = some "node" then kind else none

/-- A pattern for an entity captures the node that is looked at. -/
theorem Pattern.of_captures {t : SyntaxTree} {p : Pattern} {kind : String} {i : Nat}
    {captures : List (String × Nat)} (hp : p.entityKind? = some kind)
    (h : p.Captures t i captures) : captures.lookup "node" = some i ∧ t.kind i = kind := by
  obtain ⟨kind', field, optional, capture, children⟩ := p
  obtain ⟨rfl, rfl⟩ := Option.ite_none_right_eq_some.mp hp
  obtain ⟨f, hf, rfl⟩ := h
  obtain ⟨hadmits, g, -, rfl⟩ := mem_fits_iff.mp hf
  exact ⟨rfl, hadmits.kind kind rfl⟩

/-- Where all patterns are for entities, each match has an entity of one of their kinds. -/
theorem Query.exists_of_mem_run {q : Query} {src : SourceTree} {m : Match}
    (hq : none ∉ q.patterns.map Pattern.entityKind?) (h : m ∈ q.run src) :
    ∃ i < src.tree.nodes.size, m.node? "node" = some i ∧
      some (src.tree.kind i) ∈ q.patterns.map Pattern.entityKind? := by
  obtain ⟨p, hp, i, hi, hcaptures⟩ := exists_captures_of_mem_run h
  have hmem : p.entityKind? ∈ q.patterns.map Pattern.entityKind? := List.mem_map_of_mem hp
  obtain ⟨kind, hkind⟩ : ∃ kind, p.entityKind? = some kind :=
    Option.ne_none_iff_exists'.mp fun hnone => hq (hnone ▸ hmem)
  obtain ⟨hnode, rfl⟩ := Pattern.of_captures hkind hcaptures
  exact ⟨i, hi, hnode, hkind ▸ hmem⟩

/-- Whether a query searches for functions, methods or classes. -/
def QueryName.isForCallers (name : QueryName) : Bool :=
  name.definitionKind?.any (·.isCallable)

namespace Language

/-- Kinds of nodes that the queries for callers search for. -/
def callerKinds (l : Language) : List (Option String) :=
  (l.queries.filter (·.1.isForCallers)).flatMap (·.2.patterns.map Pattern.entityKind?)

/-- Kinds of nodes that the query for calls searches for. -/
def callKinds (l : Language) : List (Option String) :=
  ((l.query? .calls).map (·.patterns.map Pattern.entityKind?)).getD []

/-- Functions, methods and classes are captured as entities. -/
theorem none_notMem_callerKinds (l : Language) : none ∉ l.callerKinds := by
  cases l <;> decide

/-- Calls are captured as entities. -/
theorem none_notMem_callKinds (l : Language) : none ∉ l.callKinds := by
  cases l <;> decide

/-- No node is both a call and a function, method or class. -/
theorem notMem_callerKinds (l : Language) : ∀ k ∈ l.callKinds, k ∉ l.callerKinds := by
  cases l <;> decide

end Language

/-! ### Callers and their nodes -/

namespace SourceTree

variable {src : SourceTree} {l : Language} {broken : List BrokenQuery} {path : String}

/-- The class around an entity does not decide whether calls reach it. -/
theorem isCallable_kindInside (kind : DefinitionKind) (parentClass : Option String) (i : Nat) :
    (src.kindInside kind parentClass i).isCallable = kind.isCallable := by
  rcases src.kindInside_cases kind parentClass i with heq | ⟨rfl, heq⟩ | ⟨rfl, heq⟩
  · rw [heq]
  · rw [heq]
    rfl
  · rw [heq]
    rfl

/-- What the queries declare, each definition with its node. -/
def declarations (src : SourceTree) (l : Language) (broken : List BrokenQuery) (path : String) :
    List (Nat × Definition) :=
  (l.queries.filter fun (name, _) => l.compiles broken name).flatMap fun (name, q) =>
    (q.run src).filterMap fun m => do
      let kind ← name.definitionKind?
      let i ← m.node? "node"
      let d ← src.declaration? l path kind m
      some (i, d)

theorem mem_declarations {i : Nat} {d : Definition} :
    (i, d) ∈ src.declarations l broken path ↔
      ∃ name q kind m, (name, q) ∈ l.queries ∧ l.compiles broken name = true ∧
        name.definitionKind? = some kind ∧ m ∈ q.run src ∧ m.node? "node" = some i ∧
        src.declaration? l path kind m = some d := by
  simp only [declarations, List.mem_flatMap, List.mem_filter, List.mem_filterMap]
  constructor
  · rintro ⟨⟨name, q⟩, ⟨hq, hcompiles⟩, m, hm, h⟩
    obtain ⟨kind, hkind, h⟩ := Option.bind_eq_some_iff.mp h
    obtain ⟨i', hi, h⟩ := Option.bind_eq_some_iff.mp h
    obtain ⟨d', hd, h⟩ := Option.bind_eq_some_iff.mp h
    cases h
    exact ⟨name, q, kind, m, hq, hcompiles, hkind, hm, hi, hd⟩
  · rintro ⟨name, q, kind, m, hq, hcompiles, hkind, hm, hi, hd⟩
    refine ⟨⟨name, q⟩, ⟨hq, hcompiles⟩, m, hm, ?_⟩
    rw [hkind, hi, Option.bind_eq_bind, Option.bind_some, Option.bind_eq_bind, Option.bind_some, hd]
    rfl

/-- A declaration has the range of its node. -/
theorem range_of_mem_declarations {i : Nat} {d : Definition}
    (h : (i, d) ∈ src.declarations l broken path) :
    d.startByte = (src.tree.node i).start ∧ d.endByte = (src.tree.node i).stop := by
  obtain ⟨name, q, kind, m, -, -, -, -, hi, hd⟩ := mem_declarations.mp h
  obtain ⟨i', hi', -, -, -, -, hstart, hstop⟩ := exists_of_declaration? hd
  obtain rfl := Option.some.inj (hi.symm.trans hi')
  exact ⟨hstart, hstop⟩

/-- The node of a declared function, method or class is of a kind that calls are not of. -/
theorem node_of_mem_declarations {i : Nat} {d : Definition}
    (h : (i, d) ∈ src.declarations l broken path) (hd : d.kind.isCallable = true) :
    i < src.tree.nodes.size ∧ some (src.tree.kind i) ∈ l.callerKinds := by
  obtain ⟨name, q, kind, m, hq, -, hkind, hm, hi, hdecl⟩ := mem_declarations.mp h
  obtain ⟨j, -, -, -, hinside, -, -, -⟩ := exists_of_declaration? hdecl
  have hname : name.isForCallers = true := by
    rw [QueryName.isForCallers, hkind, Option.any_some, ← hd, hinside, isCallable_kindInside]
  have hsub : ∀ k ∈ q.patterns.map Pattern.entityKind?, k ∈ l.callerKinds := fun k hk =>
    List.mem_flatMap.mpr ⟨(name, q), List.mem_filter.mpr ⟨hq, hname⟩, hk⟩
  obtain ⟨i', hlt, hi', hmem⟩ :=
    q.exists_of_mem_run (fun hnone => l.none_notMem_callerKinds (hsub _ hnone)) hm
  obtain rfl := Option.some.inj (hi.symm.trans hi')
  exact ⟨hlt, hsub _ hmem⟩

/-- What is declared is found. -/
theorem mem_finds_of_mem_declarations {i : Nat} {d : Definition}
    (h : (i, d) ∈ src.declarations l broken path) : d ∈ src.finds l broken path := by
  obtain ⟨name, q, kind, m, hq, hcompiles, hkind, hm, -, hd⟩ := mem_declarations.mp h
  refine List.mem_flatMap.mpr ⟨(name, q), List.mem_filter.mpr ⟨hq, hcompiles⟩, ?_⟩
  have hname : name ≠ .calls := by
    rintro rfl
    cases hkind
  simp only [definitionsOf, if_neg hname, hkind]
  exact List.mem_filterMap.mpr ⟨m, hm, hd⟩

/-- What is found is declared, unless it is an import. -/
theorem exists_mem_declarations {d : Definition} (h : d ∈ src.finds l broken path)
    (hd : d.kind ≠ .importDecl) : ∃ i, (i, d) ∈ src.declarations l broken path := by
  obtain ⟨⟨name, q⟩, hq, hfound⟩ := List.mem_flatMap.mp h
  obtain ⟨hq, hcompiles⟩ := List.mem_filter.mp hq
  cases definedBy_of_mem_definitionsOf hfound with
  | @declared kind m _ hkind hm hdecl =>
    obtain ⟨i, hi, -⟩ := exists_of_declaration? hdecl
    exact ⟨i, mem_declarations.mpr ⟨name, q, kind, m, hq, hcompiles, hkind, hm, hi, hdecl⟩⟩
  | imported => exact absurd rfl hd

/-- The nodes that the queries take for functions, methods and classes. -/
def callerNodes (src : SourceTree) (l : Language) (broken : List BrokenQuery) (path : String) :
    List Nat :=
  ((src.declarations l broken path).filter (·.2.kind.isCallable)).map Prod.fst

theorem mem_callerNodes {i : Nat} : i ∈ src.callerNodes l broken path ↔
    ∃ d, (i, d) ∈ src.declarations l broken path ∧ d.kind.isCallable = true := by
  simp [callerNodes]

/-- The nearest function, method or class around a node. -/
def nearestCaller? (src : SourceTree) (l : Language) (broken : List BrokenQuery) (path : String)
    (i : Nat) : Option Nat :=
  (src.tree.ancestors i).find? fun a => decide (a ∈ src.callerNodes l broken path)

theorem nearestCaller?_eq_none_iff (src : SourceTree) (l : Language) (broken : List BrokenQuery)
    (path : String) (i : Nat) : src.nearestCaller? l broken path i = none ↔
      ∀ a ∈ src.tree.ancestors i, a ∉ src.callerNodes l broken path := by
  simp only [nearestCaller?, List.find?_eq_none, decide_eq_true_eq]

/-- The functions, methods and classes of a file. -/
def callers (src : SourceTree) (l : Language) (broken : List BrokenQuery) (path : String) :
    List Definition :=
  (src.definitions l broken path).filter (·.kind.isCallable)

/-- Each such node has a caller of its range. -/
theorem exists_caller {i : Nat} (h : i ∈ src.callerNodes l broken path) :
    ∃ d ∈ src.callers l broken path,
      d.startByte = (src.tree.node i).start ∧ d.endByte = (src.tree.node i).stop := by
  obtain ⟨d, hd, hcallable⟩ := mem_callerNodes.mp h
  obtain ⟨e, he, hkey⟩ := exists_mem_definitions (mem_finds_of_mem_declarations hd)
  obtain ⟨hkind, hstart, hstop, -⟩ :=
    Definition.sameEntity_iff.mp (Definition.key_eq_iff.mp hkey)
  obtain ⟨hstart', hstop'⟩ := range_of_mem_declarations hd
  refine ⟨e, List.mem_filter.mpr ⟨he, ?_⟩, hstart.trans hstart', hstop.trans hstop'⟩
  rw [hkind, hcallable]

/-- Each caller has the range of such a node. -/
theorem exists_callerNode {d : Definition} (h : d ∈ src.callers l broken path) :
    ∃ i ∈ src.callerNodes l broken path,
      d.startByte = (src.tree.node i).start ∧ d.endByte = (src.tree.node i).stop := by
  obtain ⟨hd, hcallable⟩ := List.mem_filter.mp h
  have hother : d.kind ≠ .importDecl := by
    intro heq
    simp [heq, DefinitionKind.isCallable] at hcallable
  obtain ⟨i, hi⟩ := exists_mem_declarations (mem_finds_of_mem_definitions hd) hother
  exact ⟨i, mem_callerNodes.mpr ⟨d, hi, hcallable⟩, range_of_mem_declarations hi⟩

/-- The calls that the query matches, in the order of the matches. -/
def matchedCalls (src : SourceTree) (l : Language) (broken : List BrokenQuery) : List Call :=
  if l.compiles broken .calls then
    (((l.query? .calls).map (·.run src)).getD []).filterMap src.call?
  else []

/-- What call sites are told apart by: the first byte of a call, and the name that is called. -/
def callKey (src : SourceTree) (c : Call) : Nat × String :=
  ((src.tree.node c.node).start, c.name)

/-- The calls that have call sites are the first ones of each key. -/
theorem keptCalls_eq_fresh (src : SourceTree) (l : Language) (broken : List BrokenQuery) :
    src.keptCalls l broken = fresh src.callKey [] (src.matchedCalls l broken) := by
  have hsame : ∀ c d : Call, ((src.tree.node d.node).start = (src.tree.node c.node).start &&
      d.name = c.name : Bool) = true ↔ src.callKey c = src.callKey d := by
    intro c d
    rw [Bool.and_eq_true, decide_eq_true_iff, decide_eq_true_iff, callKey, callKey,
      Prod.mk.injEq, eq_comm, eq_comm (a := d.name)]
  unfold keptCalls matchedCalls
  split
  · exact foldl_append_eq_fresh hsame [] _
  · rfl

/-- A matched call is read off a match. -/
theorem exists_call?_of_mem_matchedCalls {c : Call} (h : c ∈ src.matchedCalls l broken) :
    ∃ q m, l.query? .calls = some q ∧ m ∈ q.run src ∧ src.call? m = some c := by
  unfold matchedCalls at h
  split at h
  · obtain ⟨m, hm, hcall⟩ := List.mem_filterMap.mp h
    cases hq : l.query? .calls with
    | none =>
      rw [hq] at hm
      cases hm
    | some q =>
      rw [hq] at hm
      exact ⟨q, m, rfl, hm, hcall⟩
  · cases h

/-- The node of a kept call is of a kind that functions, methods and classes are not of. -/
theorem node_of_mem_keptCalls {c : Call} (h : c ∈ src.keptCalls l broken) :
    c.node < src.tree.nodes.size ∧ some (src.tree.kind c.node) ∉ l.callerKinds := by
  rw [keptCalls_eq_fresh] at h
  obtain ⟨q, m, hq, hm, hcall⟩ := exists_call?_of_mem_matchedCalls (mem_of_mem_fresh h).1
  have hkinds : l.callKinds = q.patterns.map Pattern.entityKind? := by
    rw [Language.callKinds, hq]
    rfl
  obtain ⟨i, hlt, hi, hkind⟩ := q.exists_of_mem_run (hkinds ▸ l.none_notMem_callKinds) hm
  obtain ⟨i', hi', hcall⟩ := Option.bind_eq_some_iff.mp hcall
  obtain rfl := Option.some.inj (hi.symm.trans hi')
  obtain ⟨callee, -, hcall⟩ := Option.bind_eq_some_iff.mp hcall
  obtain ⟨-, hcall⟩ := Option.ite_none_left_eq_some.mp hcall
  obtain rfl := Option.some.inj hcall
  exact ⟨hlt, l.notMem_callerKinds _ (hkinds ▸ hkind)⟩

/-! ### The smallest caller -/

/-- No function, method or class below a call starts with it. -/
def StartsAlone (src : SourceTree) (l : Language) (broken : List BrokenQuery) (path : String)
    (i : Nat) : Prop :=
  ∀ a ∈ src.callerNodes l broken path, i ∈ src.tree.ancestors a →
    (src.tree.node a).start ≠ (src.tree.node i).start

/-- A caller covers a byte exactly if its node does. -/
theorem covers_iff {d : Definition} {i byte : Nat} (hstart : d.startByte = (src.tree.node i).start)
    (hstop : d.endByte = (src.tree.node i).stop) :
    d.covers byte = true ↔ src.tree.Covers i byte := by
  simp only [Definition.covers, SyntaxTree.Covers, hstart, hstop, Bool.and_eq_true,
    decide_eq_true_eq]
  omega

section Nearest

variable {c : Call} (ht : src.tree.Nested) (hc : c ∈ src.keptCalls l broken)
  (hne : (src.tree.node c.node).start < (src.tree.node c.node).stop)
  (halone : src.StartsAlone l broken path c.node)

include ht hc hne halone

/-- What covers the first byte of a call are the nodes around the call. -/
theorem mem_ancestors_of_covers {i : Nat} (hi : i ∈ src.callerNodes l broken path)
    (hcovers : src.tree.Covers i (src.tree.node c.node).start) :
    i ∈ src.tree.ancestors c.node := by
  obtain ⟨hsize, hkind⟩ := node_of_mem_keptCalls hc
  obtain ⟨d, hd, hcallable⟩ := mem_callerNodes.mp hi
  obtain ⟨hisize, hikind⟩ := node_of_mem_declarations hd hcallable
  rcases ht.of_covers_start hisize hsize hne hcovers with rfl | hmem | ⟨hbelow, hstart⟩
  · exact absurd hikind hkind
  · exact hmem
  · exact absurd hstart (halone i hi hbelow)

/-- Without a function, method or class around a call no caller covers its first byte. -/
theorem innermost_eq_none (hnone : src.nearestCaller? l broken path c.node = none) :
    innermost (src.callers l broken path) (src.tree.node c.node).start = none := by
  refine innermost_eq_none_iff.mpr fun d hd => ?_
  obtain ⟨i, hi, hstart, hstop⟩ := exists_callerNode hd
  rw [Bool.eq_false_iff]
  intro hcovers
  have hmem := mem_ancestors_of_covers ht hc hne halone hi ((covers_iff hstart hstop).mp hcovers)
  exact (src.nearestCaller?_eq_none_iff l broken path c.node).mp hnone i hmem hi

/-- The smallest caller that covers the first byte of a call has the range of the nearest one. -/
theorem exists_innermost {a : Nat} (ha : src.nearestCaller? l broken path c.node = some a) :
    ∃ d ∈ src.callers l broken path,
      innermost (src.callers l broken path) (src.tree.node c.node).start = some d ∧
      d.startByte = (src.tree.node a).start ∧ d.endByte = (src.tree.node a).stop := by
  obtain ⟨hmem, near, far, hancestors, hnear⟩ := List.find?_eq_some_iff_append.mp ha
  have hfar : src.tree.ancestors a = far := ht.ancestors_of_append hancestors
  obtain ⟨e, he, hestart, hestop⟩ := exists_caller (of_decide_eq_true hmem)
  -- the caller of the nearest node is a candidate
  have hecovers : e.covers (src.tree.node c.node).start = true := by
    have hinside := ht.inside_of_mem_ancestors (a := a) (i := c.node)
      (hancestors ▸ List.mem_append_right near List.mem_cons_self)
    exact (covers_iff hestart hestop).mpr ⟨hinside.1, Nat.lt_of_lt_of_le hne hinside.2⟩
  cases hbest : innermost (src.callers l broken path) (src.tree.node c.node).start with
  | none => exact absurd hecovers (Bool.eq_false_iff.mp (innermost_eq_none_iff.mp hbest e he))
  | some d =>
    obtain ⟨hd, hcovers, hleast⟩ := of_innermost_eq_some hbest
    obtain ⟨i, hi, hstart, hstop⟩ := exists_callerNode hd
    refine ⟨d, hd, rfl, ?_⟩
    -- and no other one lies inside it
    have haround : (src.tree.node i).start ≤ (src.tree.node a).start ∧
        (src.tree.node a).stop ≤ (src.tree.node i).stop := by
      have hmem :=
        mem_ancestors_of_covers ht hc hne halone hi ((covers_iff hstart hstop).mp hcovers)
      rw [hancestors, List.mem_append, List.mem_cons] at hmem
      rcases hmem with hmem | rfl | hmem
      · have hnot := hnear i hmem
        rw [decide_eq_true hi] at hnot
        cases hnot
      · exact ⟨Nat.le_refl _, Nat.le_refl _⟩
      · exact ht.inside_of_mem_ancestors (hfar ▸ hmem)
    have hspan : d.span ≤ e.span := hleast e he hecovers
    unfold Definition.span at hspan
    omega

end Nearest

end SourceTree

/--
In a syntax tree with nested and ordered ranges, take a kept call that is not empty and that no
function, method or class below it starts with. The caller of its call site is a function, method or
class of the file with the range of the nearest ancestor of the call that a query took for one.
There is no caller exactly if there is no such ancestor.
-/
theorem ParsedFile.caller_nearest (l : Language) (broken : List BrokenQuery)
    (path content : String) {tree : SyntaxTree} (ht : tree.Nested) :
    let src : SourceTree := ⟨tree, content.toUTF8⟩
    let f := extract l broken path content tree
    ∀ c ∈ src.keptCalls l broken, (tree.node c.node).start < (tree.node c.node).stop →
      src.StartsAlone l broken path c.node →
      let site := src.callSite path (src.callers l broken path) c
      site ∈ f.callSites ∧
      (∀ a, src.nearestCaller? l broken path c.node = some a → ∃ d ∈ f.definitions,
        d.kind ∈ [.functionDecl, .methodDecl, .classDecl] ∧
        d.startByte = (tree.node a).start ∧ d.endByte = (tree.node a).stop ∧
        site.callerId = some d.nodeId ∧ site.callerName = some d.name ∧
        site.callerClass = d.ownClass) ∧
      (site.callerId = none ↔
        ∀ a ∈ tree.ancestors c.node, a ∉ src.callerNodes l broken path) := by
  intro src f c hc hne halone site
  refine ⟨SourceTree.mem_callSites.mpr ⟨c, hc, rfl⟩, fun a ha => ?_, ?_⟩
  · obtain ⟨d, hd, hbest, hstart, hstop⟩ := SourceTree.exists_innermost ht hc hne halone ha
    obtain ⟨hmem, hcallable⟩ := List.mem_filter.mp hd
    refine ⟨d, hmem, DefinitionKind.isCallable_iff.mp hcallable, hstart, hstop, ?_, ?_, ?_⟩
    · exact congrArg (Option.map Definition.nodeId) hbest
    · exact congrArg (Option.map Definition.name) hbest
    · exact congrArg (Option.bind · Definition.ownClass) hbest
  · refine Iff.trans ?_ (src.nearestCaller?_eq_none_iff l broken path c.node)
    constructor
    · intro hid
      cases ha : src.nearestCaller? l broken path c.node with
      | none => rfl
      | some a =>
        obtain ⟨d, -, hbest, -⟩ := SourceTree.exists_innermost ht hc hne halone ha
        have hsome : site.callerId = some d.nodeId := congrArg (Option.map Definition.nodeId) hbest
        rw [hsome] at hid
        cases hid
    · intro hnone
      exact congrArg (Option.map Definition.nodeId)
        (SourceTree.innermost_eq_none ht hc hne halone hnone)

/-! ### A sample -/

namespace CallInMethod

/-- A method in a class, with a call. -/
def source : String :=
  "class A:\n def f():g()"

/-- Its syntax tree. -/
def tree : SyntaxTree := .ofRows
  [⟨"module", true, none, 0, 21, none, []⟩,
   ⟨"class_definition", true, none, 0, 21, some 0, []⟩,
   ⟨"class", false, none, 0, 5, some 1, []⟩,
   ⟨"identifier", true, some "name", 6, 7, some 1, []⟩,
   ⟨":", false, none, 7, 8, some 1, []⟩,
   ⟨"block", true, some "body", 10, 21, some 1, []⟩,
   ⟨"function_definition", true, none, 10, 21, some 5, []⟩,
   ⟨"def", false, none, 10, 13, some 6, []⟩,
   ⟨"identifier", true, some "name", 14, 15, some 6, []⟩,
   ⟨"parameters", true, some "parameters", 15, 17, some 6, []⟩,
   ⟨"(", false, none, 15, 16, some 9, []⟩,
   ⟨")", false, none, 16, 17, some 9, []⟩,
   ⟨":", false, none, 17, 18, some 6, []⟩,
   ⟨"block", true, some "body", 18, 21, some 6, []⟩,
   ⟨"expression_statement", true, none, 18, 21, some 13, []⟩,
   ⟨"call", true, none, 18, 21, some 14, []⟩,
   ⟨"identifier", true, some "function", 18, 19, some 15, []⟩,
   ⟨"argument_list", true, some "arguments", 19, 21, some 15, []⟩,
   ⟨"(", false, none, 19, 20, some 17, []⟩,
   ⟨")", false, none, 20, 21, some 17, []⟩] false

/-- The tree with its text. -/
def src : SourceTree :=
  ⟨tree, source.toUTF8⟩

/-- The call is kept, and the method is the nearer one of the two callers around it. -/
theorem facts :
    tree.Nested ∧ (∃ c ∈ src.keptCalls .python [], c.node = 15) ∧
    src.StartsAlone .python [] "a.py" 15 ∧ src.nearestCaller? .python [] "a.py" 15 = some 6 ∧
    ((tree.node 15).start < (tree.node 15).stop) ∧
    (tree.node 6).start = 10 ∧ (tree.node 6).stop = 21 := by
  unfold SourceTree.StartsAlone
  decide +kernel

end CallInMethod

/-- The caller is the method. -/
theorem ParsedFile.caller_nearest_method :
    let f := extract .python [] "a.py" CallInMethod.source CallInMethod.tree
    ∃ site ∈ f.callSites, ∃ d ∈ f.definitions,
      d.startByte = 10 ∧ d.endByte = 21 ∧ site.callerId = some d.nodeId := by
  intro f
  obtain ⟨hnested, ⟨c, hc, hnode⟩, halone, hnearest, hne, hten, hend⟩ := CallInMethod.facts
  rw [← hnode] at halone hnearest hne
  obtain ⟨hsite, hcaller, -⟩ := caller_nearest .python [] "a.py" CallInMethod.source
    hnested c hc hne halone
  obtain ⟨d, hd, -, hstart, hstop, hid, -⟩ := hcaller 6 hnearest
  rw [hten] at hstart
  rw [hend] at hstop
  exact ⟨_, hsite, d, hd, hstart, hstop, hid⟩

end CodeGraph
