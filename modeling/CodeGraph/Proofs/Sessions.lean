import CodeGraph.Proofs.Graph

/-!
# Sessions on a store

A session is a sequence of calls on one store. A call may be refused half-way, and whatever it has
written by then stays; so the calls are programs over a store that outlives their refusals. None of
them writes before its last check, which is why each is one of the operations of `Store`, with the
store unchanged when that operation fails. From the list of what a call can do follow the invariants
of whole sessions: records are appended and stay where they are, identifiers are given away once,
and a frozen store changes no more.

## Main definitions

* `Store.Call`: a program over a store that outlives a refusal.
* `Store.Request`, `Store.Reply`, `Store.serve`, `Store.serveAll`: a call by what is asked, its
  answer, and sessions.
* `Store.Serves`: what a call can do.
* `Graph.Extends`: the records of one graph, with their places, in another.

## Main results

* `Store.run_addNode`, `Store.run_addRelationship`, `Store.run_updateProperties`: calls are the
  operations of a store.
* `Store.serves`: every call does one of the listed things.
* `Store.append_only`: the invariants of all sessions.
-/

namespace CodeGraph

/-- The identifier of a relationship is the one derived from its type and end points. -/
def Relationship.IsDerived (r : Relationship) : Prop :=
  r.id = Identifier.ofRelationship r.source r.kind r.target

/-! ### Growing graphs -/

namespace Graph

variable {g : Graph}

theorem addNode_of_mem {n : Node} (h : n.id ∈ g.ids) : g.addNode n = (g, false) :=
  if_pos ((hasNode_iff g n.id).mpr h)

theorem addNode_of_notMem {n : Node} (h : n.id ∉ g.ids) :
    g.addNode n = ({ g with nodes := g.nodes ++ [n] }, true) :=
  if_neg fun hmem => h ((hasNode_iff g n.id).mp hmem)

theorem insertNode_of_notMem {n : Node} (h : n.id ∉ g.ids) :
    g.insertNode n = { g with nodes := g.nodes ++ [n] } :=
  congrArg Prod.fst (addNode_of_notMem h)

theorem addRelationship_of_mem {r : Relationship} (h : r.id ∈ g.linkIds) :
    g.addRelationship r = (g, false) :=
  if_pos ((relationship?_isSome_iff g r.id).mpr h)

theorem addRelationship_of_notMem {r : Relationship} (h : r.id ∉ g.linkIds) :
    g.addRelationship r = ({ g with relationships := g.relationships ++ [r] }, true) :=
  if_neg fun hmem => h ((relationship?_isSome_iff g r.id).mp hmem)

theorem insertRelationship_of_notMem {r : Relationship} (h : r.id ∉ g.linkIds) :
    g.insertRelationship r = { g with relationships := g.relationships ++ [r] } :=
  congrArg Prod.fst (addRelationship_of_notMem h)

/-- The identifiers of nodes and those of relationships are given away once. -/
structure Distinct (g : Graph) : Prop where
  ids : g.ids.Nodup
  linkIds : g.linkIds.Nodup

/-- The identifiers and labels of the nodes, by position. -/
def labels (g : Graph) : List (String × NodeKind) :=
  g.nodes.map fun n => (n.id, n.label)

/--
A graph has the records of another in the same positions: nodes by identifier and label, whatever
their properties, and relationships as they were.
-/
structure Extends (g g' : Graph) : Prop where
  labels : g.labels <+: g'.labels
  relationships : g.relationships <+: g'.relationships

namespace Extends

variable {g' g'' : Graph}

theorem refl (g : Graph) : g.Extends g :=
  ⟨List.prefix_refl _, List.prefix_refl _⟩

theorem trans (h : g.Extends g') (h' : g'.Extends g'') : g.Extends g'' :=
  ⟨h.labels.trans h'.labels, h.relationships.trans h'.relationships⟩

theorem insertNode (g : Graph) (n : Node) : g.Extends (g.insertNode n) where
  labels := by
    rw [Graph.labels, Graph.labels, nodes_insertNode, List.map_append]
    exact List.prefix_append _ _
  relationships := by simp

theorem insertRelationship (g : Graph) (r : Relationship) :
    g.Extends (g.insertRelationship r) where
  labels := by simp [Graph.labels]
  relationships := by
    rw [relationships_insertRelationship]
    exact List.prefix_append _ _

/-- Merging properties changes properties and nothing else. -/
theorem setProperties (g : Graph) (id : String) (props : Properties) :
    g.Extends (g.setProperties id props) where
  labels := by
    rw [Graph.labels, Graph.labels, nodes_setProperties, List.map_map]
    exact List.prefix_refl _
  relationships := List.prefix_refl _

end Extends

namespace Distinct

theorem insertNode (h : g.Distinct) (n : Node) : (g.insertNode n).Distinct where
  ids := nodup_ids_insertNode h.ids n
  linkIds := by
    rw [linkIds_insertNode]
    exact h.linkIds

theorem insertRelationship (h : g.Distinct) (r : Relationship) :
    (g.insertRelationship r).Distinct where
  ids := by
    rw [ids_insertRelationship]
    exact h.ids
  linkIds := nodup_linkIds_insertRelationship h.linkIds r

theorem setProperties (h : g.Distinct) (id : String) (props : Properties) :
    (g.setProperties id props).Distinct where
  ids := by
    rw [ids_setProperties]
    exact h.ids
  linkIds := h.linkIds

/-- Two relationships under derived identifiers between the same nodes are one. -/
theorem eq_of_ends_eq (h : g.Distinct) {i j : Nat} {r r' : Relationship}
    (hi : g.relationships[i]? = some r) (hj : g.relationships[j]? = some r')
    (hr : r.IsDerived) (hr' : r'.IsDerived)
    (hends : (r.source, r.kind, r.target) = (r'.source, r'.kind, r'.target)) : i = j := by
  obtain ⟨hsource, hkind, htarget⟩ : r.source = r'.source ∧ r.kind = r'.kind ∧
      r.target = r'.target := by simpa using hends
  have hid : r.id = r'.id := by
    rw [hr, hr', hsource, hkind, htarget]
  have hat : g.linkIds[i]? = some r.id := by
    rw [Graph.linkIds, List.getElem?_map, hi, Option.map_some]
  have hat' : g.linkIds[j]? = some r'.id := by
    rw [Graph.linkIds, List.getElem?_map, hj, Option.map_some]
  obtain ⟨hlt, -⟩ := List.getElem?_eq_some_iff.mp hat
  rw [← List.getElem?_inj hlt h.linkIds, hat, hat', hid]

end Distinct

end Graph

namespace Store

/-! ### Calls -/

/-- A call on a store. When it is refused, the store stays as the call has left it. -/
abbrev Call := EStateM StoreError Store

namespace Call

/-- Refuse to go on with a frozen store. -/
def demandMutable : Call Unit := do
  let s ← get
  if s.frozen then throw .frozen

/-- Append a node; whether it was new. -/
def addNode (n : Node) : Call Bool := do
  demandMutable
  let s ← get
  if s.graph.hasNode n.id then return false
  set { s with graph := { s.graph with nodes := s.graph.nodes ++ [n] } }
  return true

/-- Append a relationship; whether it was new. -/
def addRelationship (r : Relationship) : Call Bool := do
  demandMutable
  let s ← get
  if (s.graph.relationship? r.id).isSome then return false
  set { s with graph := { s.graph with relationships := s.graph.relationships ++ [r] } }
  return true

/-- Merge untyped properties into a node. -/
def updateProperties (id : String) (raw : List (String × Json)) : Call Unit := do
  demandMutable
  let s ← get
  match s.graph.node? id with
  | none => throw (.unknownNode id)
  | some n =>
    match n.label.checkProperties raw with
    | .error fault => throw (.property fault)
    | .ok props => set { s with graph := s.graph.setProperties id props }

/-- Refuse every later change. -/
def freeze : Call Unit :=
  modify Store.freeze

end Call

/-! ### Calls as operations -/

/-- The outcome of an operation as that of a call: a failure leaves the store alone. -/
def outcome {α : Type} (s : Store) :
    Except StoreError (Store × α) → EStateM.Result StoreError Store α
  | .ok (s', a) => .ok a s'
  | .error e => .error e s

/-- The first check of a call looks at nothing but the freeze flag. -/
theorem run_demandMutable (s : Store) :
    Call.demandMutable.run s = if s.frozen then .error .frozen s else .ok () s := by
  cases hfrozen : s.frozen <;> simp [Call.demandMutable, EStateM.run_bind, hfrozen]

/-- A call that appends a node is the operation. -/
theorem run_addNode (s : Store) (n : Node) : (Call.addNode n).run s = s.outcome (s.addNode n) := by
  obtain ⟨g, frozen⟩ := s
  unfold Call.addNode Store.addNode Graph.addNode
  cases frozen with
  | true => simp [EStateM.run_bind, run_demandMutable, outcome]
  | false =>
    by_cases hknown : g.hasNode n.id = true
    · simp [EStateM.run_bind, run_demandMutable, outcome, hknown]
    · simp [EStateM.run_bind, run_demandMutable, outcome, hknown, -bind_pure_comp]

/-- A call that appends a relationship is the operation. -/
theorem run_addRelationship (s : Store) (r : Relationship) :
    (Call.addRelationship r).run s = s.outcome (s.addRelationship r) := by
  obtain ⟨g, frozen⟩ := s
  unfold Call.addRelationship Store.addRelationship Graph.addRelationship
  cases frozen with
  | true => simp [EStateM.run_bind, run_demandMutable, outcome]
  | false =>
    by_cases hknown : (g.relationship? r.id).isSome = true
    · simp [EStateM.run_bind, run_demandMutable, outcome, hknown]
    · simp [EStateM.run_bind, run_demandMutable, outcome, hknown, -bind_pure_comp]

/-- A call that merges properties is the operation: both checks come before the first change. -/
theorem run_updateProperties (s : Store) (id : String) (raw : List (String × Json)) :
    (Call.updateProperties id raw).run s =
      s.outcome ((s.updateProperties id raw).map fun s' => (s', ())) := by
  obtain ⟨g, frozen⟩ := s
  unfold Call.updateProperties Store.updateProperties
  cases frozen with
  | true => simp [EStateM.run_bind, run_demandMutable, outcome, Except.map]
  | false =>
    cases hnode : g.node? id with
    | none => simp [EStateM.run_bind, run_demandMutable, outcome, Except.map, hnode]
    | some n =>
      cases hcheck : n.label.checkProperties raw with
      | error fault =>
        simp [EStateM.run_bind, run_demandMutable, outcome, Except.map, hnode, hcheck]
      | ok props =>
        simp [EStateM.run_bind, run_demandMutable, outcome, Except.map, hnode, hcheck]

/-! ### Requests and replies -/

/-- What can be asked of a store. -/
inductive Request where
  | node (n : Node)
  | relationship (r : Relationship)
  | properties (id : String) (raw : List (String × Json))
  | freeze

/-- What a store answers. -/
inductive Reply where
  | added (isNew : Bool)
  | done
  | refused (e : StoreError)

/-- The call that a request asks for. -/
def Request.call : Request → Call Reply
  | node n => do return .added (← Call.addNode n)
  | relationship r => do return .added (← Call.addRelationship r)
  | properties id raw => do
    Call.updateProperties id raw
    return .done
  | freeze => do
    Call.freeze
    return .done

/-- The store after a request, and the answer. -/
def serve (s : Store) (q : Request) : Store × Reply :=
  match q.call.run s with
  | .ok reply s' => (s', reply)
  | .error e s' => (s', .refused e)

/-- The store after a session. -/
def serveAll (s : Store) (qs : List Request) : Store :=
  qs.foldl (fun s q => (s.serve q).1) s

/-- A request is refused, and why. -/
inductive Refuses (s : Store) : Request → StoreError → Prop
  | frozen {q : Request} : s.frozen = true → q ≠ .freeze → Refuses s q .frozen
  | unknownNode {id : String} {raw : List (String × Json)} :
      s.frozen = false → s.graph.node? id = none →
      Refuses s (.properties id raw) (.unknownNode id)
  | property {id : String} {raw : List (String × Json)} {n : Node} {fault : PropertyFault} :
      s.frozen = false → s.graph.node? id = some n → n.label.checkProperties raw = .error fault →
      Refuses s (.properties id raw) (.property fault)

/-- All that a request can do, with the answer and the store after it. -/
inductive Serves (s : Store) : Request → Reply → Store → Prop
  | refused {q : Request} {e : StoreError} : s.Refuses q e → Serves s q (.refused e) s
  | knownNode {n : Node} :
      s.frozen = false → n.id ∈ s.graph.ids → Serves s (.node n) (.added false) s
  | newNode {n : Node} :
      s.frozen = false → n.id ∉ s.graph.ids →
      Serves s (.node n) (.added true)
        { s with graph := { s.graph with nodes := s.graph.nodes ++ [n] } }
  | knownRelationship {r : Relationship} :
      s.frozen = false → r.id ∈ s.graph.linkIds → Serves s (.relationship r) (.added false) s
  | newRelationship {r : Relationship} :
      s.frozen = false → r.id ∉ s.graph.linkIds →
      Serves s (.relationship r) (.added true)
        { s with graph := { s.graph with relationships := s.graph.relationships ++ [r] } }
  | merged {id : String} {raw : List (String × Json)} {n : Node} {props : Properties} :
      s.frozen = false → s.graph.node? id = some n → n.label.checkProperties raw = .ok props →
      Serves s (.properties id raw) .done { s with graph := s.graph.setProperties id props }
  | freeze : Serves s .freeze .done s.freeze

section Serve

variable (s : Store)

theorem serve_node (n : Node) :
    s.serve (.node n) = match s.addNode n with
      | .ok (s', added) => (s', .added added)
      | .error e => (s, .refused e) := by
  simp only [serve, Request.call, EStateM.run_bind, run_addNode]
  cases s.addNode n <;> rfl

theorem serve_relationship (r : Relationship) :
    s.serve (.relationship r) = match s.addRelationship r with
      | .ok (s', added) => (s', .added added)
      | .error e => (s, .refused e) := by
  simp only [serve, Request.call, EStateM.run_bind, run_addRelationship]
  cases s.addRelationship r <;> rfl

theorem serve_properties (id : String) (raw : List (String × Json)) :
    s.serve (.properties id raw) = match s.updateProperties id raw with
      | .ok s' => (s', .done)
      | .error e => (s, .refused e) := by
  simp only [serve, Request.call, EStateM.run_bind, run_updateProperties]
  cases s.updateProperties id raw <;> rfl

variable {s} in
/-- A store that is not frozen takes a node in under a new identifier only. -/
theorem serve_node_of_mutable (h : s.frozen = false) (n : Node) :
    s.serve (.node n) =
      if n.id ∈ s.graph.ids then (s, .added false)
      else ({ s with graph := { s.graph with nodes := s.graph.nodes ++ [n] } }, .added true) := by
  obtain ⟨g, frozen⟩ := s
  subst h
  rw [serve_node, Store.addNode]
  by_cases hknown : n.id ∈ g.ids
  · rw [Graph.addNode_of_mem hknown, if_pos hknown]
    rfl
  · rw [Graph.addNode_of_notMem hknown, if_neg hknown]
    rfl

variable {s} in
/-- A store that is not frozen takes a relationship in under a new identifier only. -/
theorem serve_relationship_of_mutable (h : s.frozen = false) (r : Relationship) :
    s.serve (.relationship r) =
      if r.id ∈ s.graph.linkIds then (s, .added false)
      else ({ s with graph := { s.graph with relationships := s.graph.relationships ++ [r] } },
        .added true) := by
  obtain ⟨g, frozen⟩ := s
  subst h
  rw [serve_relationship, Store.addRelationship]
  by_cases hknown : r.id ∈ g.linkIds
  · rw [Graph.addRelationship_of_mem hknown, if_pos hknown]
    rfl
  · rw [Graph.addRelationship_of_notMem hknown, if_neg hknown]
    rfl

/-- Every request does one of the things listed. -/
theorem serves (q : Request) : s.Serves q (s.serve q).2 (s.serve q).1 := by
  obtain ⟨g, frozen⟩ := s
  cases q with
  | node n =>
    cases frozen with
    | true =>
      rw [serve_node]
      exact .refused (.frozen rfl nofun)
    | false =>
      rw [serve_node_of_mutable rfl]
      split_ifs with hknown
      · exact .knownNode rfl hknown
      · exact .newNode rfl hknown
  | relationship r =>
    cases frozen with
    | true =>
      rw [serve_relationship]
      exact .refused (.frozen rfl nofun)
    | false =>
      rw [serve_relationship_of_mutable rfl]
      split_ifs with hknown
      · exact .knownRelationship rfl hknown
      · exact .newRelationship rfl hknown
  | properties id raw =>
    rw [serve_properties, Store.updateProperties]
    cases frozen with
    | true => exact .refused (.frozen rfl nofun)
    | false =>
      cases hnode : g.node? id with
      | none => exact .refused (.unknownNode rfl hnode)
      | some n =>
        cases hcheck : n.label.checkProperties raw with
        | error fault =>
          simp only [hcheck]
          exact .refused (.property rfl hnode hcheck)
        | ok props =>
          simp only [hcheck]
          exact .merged rfl hnode hcheck
  | freeze => exact .freeze

/-- A request is refused exactly for the reasons listed. -/
theorem reply_eq_refused_iff {q : Request} {e : StoreError} :
    (s.serve q).2 = .refused e ↔ s.Refuses q e := by
  have h := s.serves q
  generalize (s.serve q).2 = reply, (s.serve q).1 = s' at h
  constructor
  · rintro rfl
    cases h with
    | refused hrefuses => exact hrefuses
  · intro hrefuses
    cases h with
    | refused hrefuses' => cases hrefuses <;> cases hrefuses' <;> simp_all
    | knownNode hfrozen hknown => cases hrefuses; simp_all
    | newNode hfrozen hnew => cases hrefuses; simp_all
    | knownRelationship hfrozen hknown => cases hrefuses; simp_all
    | newRelationship hfrozen hnew => cases hrefuses; simp_all
    | merged hfrozen hnode hcheck => cases hrefuses <;> simp_all
    | freeze => cases hrefuses; contradiction

end Serve

/-! ### Whole sessions -/

section Sessions

variable {s : Store}

/-- A refused request changes nothing. -/
theorem serve_of_refused {q : Request} {e : StoreError} (h : (s.serve q).2 = .refused e) :
    (s.serve q).1 = s := by
  have hserves := s.serves q
  generalize (s.serve q).2 = reply, (s.serve q).1 = s' at h hserves
  subst h
  cases hserves with
  | refused => rfl

/-- A request extends the graph. -/
theorem extends_serve (s : Store) (q : Request) : s.graph.Extends (s.serve q).1.graph := by
  have h := s.serves q
  generalize (s.serve q).2 = reply, (s.serve q).1 = s' at h
  cases h with
  | refused | knownNode | knownRelationship | freeze => exact .refl _
  | newNode _ hnew => exact Graph.insertNode_of_notMem hnew ▸ .insertNode _ _
  | newRelationship _ hnew =>
    exact Graph.insertRelationship_of_notMem hnew ▸ .insertRelationship _ _
  | merged => exact .setProperties _ _ _

/-- A request gives no identifier away twice. -/
theorem distinct_serve (h : s.graph.Distinct) (q : Request) : (s.serve q).1.graph.Distinct := by
  have hserves := s.serves q
  generalize (s.serve q).2 = reply, (s.serve q).1 = s' at hserves
  cases hserves with
  | refused | knownNode | knownRelationship | freeze => exact h
  | newNode _ hnew => exact Graph.insertNode_of_notMem hnew ▸ h.insertNode _
  | newRelationship _ hnew =>
    exact Graph.insertRelationship_of_notMem hnew ▸ h.insertRelationship _
  | merged => exact h.setProperties _ _

/-- A frozen store stays as it is. -/
theorem serve_of_frozen (h : s.frozen = true) (q : Request) : (s.serve q).1 = s := by
  have hserves := s.serves q
  generalize (s.serve q).2 = reply, (s.serve q).1 = s' at hserves
  cases hserves with
  | refused | knownNode | knownRelationship => rfl
  | newNode hmutable | newRelationship hmutable | merged hmutable =>
    rw [h] at hmutable
    cases hmutable
  | freeze =>
    obtain ⟨g, frozen⟩ := s
    cases h
    rfl

theorem extends_serveAll (s : Store) (qs : List Request) :
    s.graph.Extends (s.serveAll qs).graph := by
  induction qs generalizing s with
  | nil => exact .refl _
  | cons q qs ih => exact (s.extends_serve q).trans (ih _)

theorem distinct_serveAll (h : s.graph.Distinct) (qs : List Request) :
    (s.serveAll qs).graph.Distinct := by
  induction qs generalizing s with
  | nil => exact h
  | cons q qs ih => exact ih (distinct_serve h q)

theorem serveAll_of_frozen (h : s.frozen = true) (qs : List Request) : s.serveAll qs = s := by
  induction qs with
  | nil => rfl
  | cons q qs ih =>
    rw [serveAll, List.foldl_cons, serve_of_frozen h q]
    exact ih

/--
In every session on a new store, nodes have different identifiers, and relationships under derived
identifiers different end points or types. All records keep their positions whatever is asked later.
A request that is refused, which happens for the reasons listed only, changes nothing. A store that
is not frozen appends a record under a new identifier and leaves out one under a known identifier,
and says so. After a freeze no request changes the graph.
-/
theorem append_only (qs : List Request) :
    let s := serveAll {} qs
    s.graph.ids.Nodup ∧
    (∀ (i j : Nat) (r r' : Relationship), s.graph.relationships[i]? = some r →
      s.graph.relationships[j]? = some r' → r.IsDerived → r'.IsDerived →
      (r.source, r.kind, r.target) = (r'.source, r'.kind, r'.target) → i = j) ∧
    (∀ more, s.graph.Extends (s.serveAll more).graph) ∧
    (∀ q e, ((s.serve q).2 = .refused e ↔ s.Refuses q e) ∧
      (s.Refuses q e → (s.serve q).1 = s)) ∧
    (s.frozen = false → ∀ n, s.serve (.node n) =
      if n.id ∈ s.graph.ids then (s, .added false)
      else ({ s with graph := { s.graph with nodes := s.graph.nodes ++ [n] } }, .added true)) ∧
    (s.frozen = false → ∀ r, s.serve (.relationship r) =
      if r.id ∈ s.graph.linkIds then (s, .added false)
      else ({ s with graph := { s.graph with relationships := s.graph.relationships ++ [r] } },
        .added true)) ∧
    ∀ more, (s.serveAll (.freeze :: more)).graph = s.graph := by
  intro s
  have hdistinct : s.graph.Distinct :=
    distinct_serveAll (s := {}) ⟨List.nodup_nil, List.nodup_nil⟩ qs
  refine ⟨hdistinct.ids, fun i j r r' hi hj => hdistinct.eq_of_ends_eq hi hj,
    s.extends_serveAll, fun q e => ⟨s.reply_eq_refused_iff, fun h => ?_⟩, serve_node_of_mutable,
    serve_relationship_of_mutable, fun more => ?_⟩
  · exact serve_of_refused (s.reply_eq_refused_iff.mpr h)
  · have hfrozen : s.serveAll (.freeze :: more) = s.freeze :=
      serveAll_of_frozen (s := s.freeze) rfl more
    rw [hfrozen]
    rfl

end Sessions

end Store

end CodeGraph
