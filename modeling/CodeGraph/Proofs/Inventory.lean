import CodeGraph.Inventory
import CodeGraph.Proofs.Authentic
import CodeGraph.Proofs.Graph
import CodeGraph.Proofs.Registry

/-!
# What enters the inventory

Of all definitions that are offered, those under new identifiers enter graph and registry; the
others are only counted. Each entered definition brings its node, the relationship to its file, and
that to its class if it is a method of one.

## Main definitions

* `Inventory.Entry`: a definition that is offered, with its file and the types of that file.
* `Inventory.Entry.attachment`: what it brings into the graph.
* `Inventory.entered`: the entries under new identifiers.

## Main results

* `Inventory.foldl_addEntry`: what a sequence of entries leaves behind.
* `Inventory.count_addAll`, `Inventory.snd_enterAll`: how many definitions count as new.
-/

namespace CodeGraph.Inventory

/-- A definition that is offered, with the node of its file and the types of that file. -/
structure Entry where
  fileId : String
  types : List Definition
  definition : Definition

namespace Entry

/-- The identifier that an entry asks for. -/
def id (e : Entry) : String :=
  e.definition.nodeId

/-- The relationship of a definition to its file. -/
def definesEdge (e : Entry) : Relationship :=
  .between .defines e.fileId e.id

/-- The relationships that an entry brings. -/
def links (e : Entry) : List Relationship :=
  e.definesEdge :: (membership? e.types e.definition).toList

/-- What an entry brings into the graph. -/
def attachment (e : Entry) : Node × List Relationship :=
  (nodeOf e.definition, e.links)

end Entry

/-- The entries of a file. -/
def entriesOf (fileId : String) (ds : List Definition) : List Entry :=
  ds.map (⟨fileId, ds.filter (·.kind.isType), ·⟩)

/-- Offer an entry. -/
def addEntry (v : Inventory) (e : Entry) : Inventory :=
  (v.enter e.fileId e.types e.definition).1

/-- The entries under new identifiers. -/
def entered (taken : List String) (es : List Entry) : List Entry :=
  fresh Entry.id taken es

/-- Entering the definitions of a file is offering its entries. -/
theorem addAll_eq (v : Inventory) (fileId : String) (ds : List Definition) :
    v.addAll fileId ds = (entriesOf fileId ds).foldl addEntry v := by
  rw [addAll, enterAll, Count.fst_steps, entriesOf, List.foldl_map]
  rfl

/-- The registry grows by the definitions that count as new. -/
theorem count_addAll (v : Inventory) (fileId : String) (ds : List Definition) :
    (v.addAll fileId ds).registry.count = v.registry.count + (v.enterAll fileId ds).2 := by
  refine Count.measure_steps (fun v : Inventory => v.registry.count) (fun v d => ?_) v ds
  unfold enter
  split
  · rfl
  · exact v.registry.count_addDefinition d

/-- An entered definition is attached. -/
theorem place_eq_attach (g : Graph) (e : Entry) :
    place g e.fileId e.types e.definition = g.attach e.attachment := by
  unfold place Entry.attachment Entry.links
  cases membership? e.types e.definition <;> rfl

/-- The class that owns a method is one of the given types. -/
theorem mem_of_owningClass? {types : List Definition} {d owner : Definition}
    (h : owningClass? types d = some owner) : owner ∈ types :=
  (of_owningClass?_eq_some h).1

/-- A relationship to a class leads from the method to a type of its file. -/
theorem exists_of_membership? {types : List Definition} {d : Definition} {r : Relationship}
    (h : membership? types d = some r) :
    ∃ owner ∈ types, r = .between .belongsTo d.nodeId owner.nodeId := by
  simp only [membership?] at h
  split at h
  · obtain ⟨-, -, h⟩ := Option.bind_eq_some_iff.mp h
    obtain ⟨owner, howner, hr⟩ := Option.bind_eq_some_iff.mp h
    exact ⟨owner, mem_of_owningClass? howner, (Option.some.inj hr).symm⟩
  · cases h

/-- Only methods have relationships to classes. -/
theorem kind_of_membership? {types : List Definition} {d : Definition} {r : Relationship}
    (h : membership? types d = some r) : d.kind = .methodDecl := by
  by_contra hkind
  rw [membership?, if_neg hkind] at h
  cases h

/-- What a sequence of entries leaves behind. -/
theorem foldl_addEntry (v : Inventory) (es : List Entry) :
    es.foldl addEntry v =
      { graph := ((entered v.graph.ids es).map Entry.attachment).foldl Graph.attach v.graph
        registry :=
          ((entered v.graph.ids es).map Entry.definition).foldl Registry.addDefinition v.registry
        duplicates := v.duplicates + (es.length - (entered v.graph.ids es).length)
        byKind := ((entered v.graph.ids es).map (·.definition.kind.name)).foldl
          OrderedMap.increment v.byKind } := by
  induction es generalizing v with
  | nil => rfl
  | cons e es ih =>
    by_cases hmem : e.id ∈ v.graph.ids
    · have hstep : v.addEntry e = { v with duplicates := v.duplicates + 1 } := by
        have hknown : v.graph.hasNode e.definition.nodeId = true :=
          (Graph.hasNode_iff _ _).mpr hmem
        rw [addEntry, enter, if_pos hknown]
      have hskip : entered v.graph.ids (e :: es) = entered v.graph.ids es := by
        simp only [entered, fresh, hmem, if_true]
      have hlen := (fresh_sublist Entry.id v.graph.ids es).length_le
      rw [List.foldl_cons, hstep, ih, hskip]
      simp only [List.length_cons, entered] at hlen ⊢
      congr 1
      omega
    · have hstep : v.addEntry e =
          { v with
            graph := v.graph.attach e.attachment
            registry := v.registry.addDefinition e.definition
            byKind := v.byKind.increment e.definition.kind.name } := by
        have hnew : ¬v.graph.hasNode e.definition.nodeId = true := fun h =>
          hmem ((Graph.hasNode_iff _ _).mp h)
        rw [addEntry, enter, if_neg hnew, place_eq_attach]
      have hkeep : entered v.graph.ids (e :: es) =
          e :: entered (v.graph.attach e.attachment).ids es := by
        simp only [entered, fresh, hmem, if_false]
        congr 1
        refine fresh_congr (fun id => ?_) es
        refine (Iff.trans ?_ (Graph.mem_ids_foldl_attach v.graph [e.attachment] id).symm)
        simp only [List.mem_cons, List.map_cons, List.map_nil, List.not_mem_nil, or_false]
        exact or_comm
      rw [List.foldl_cons, hstep, ih, hkeep]
      simp only [List.map_cons, List.foldl_cons, List.length_cons]
      congr 1
      omega

/-- As many definitions of a file count as new as there are entries under new identifiers. -/
theorem snd_enterAll (v : Inventory) (fileId : String) (ds : List Definition) :
    (v.enterAll fileId ds).2 = (entered v.graph.ids (entriesOf fileId ds)).length := by
  have hcount := v.count_addAll fileId ds
  rw [addAll_eq, foldl_addEntry, Registry.count_foldl_addDefinition, List.length_map] at hcount
  omega

end CodeGraph.Inventory
