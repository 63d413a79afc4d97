import CodeGraph.Proofs.Graph
import CodeGraph.Proofs.OrderedMap

/-!
# The findings for any graph

The findings for a graph are facts about its nodes and relationships, whether or not it is sound:
which ends of relationships have no node, which files with content neither define anything nor say
so, and how many nodes of each kind no relationship touches. One pass over the relationships, which
remembers what it has seen, and one over the nodes are enough to collect them all.

## Main definitions

* `Graph.Dangles`, `Graph.Unaccounted`, `Graph.Isolated`: what is found.
* `Graph.Scan`, `Graph.scanned`: collecting the findings in one pass.

## Main results

* `Graph.Scan.Covers.look`, `Graph.Scan.Covers.foldl_look`: what has been seen after some
  relationships.
* `Graph.scanned_eq_validate`: the pass collects the findings.
* `Graph.validate_exact`: the findings as facts.
-/

namespace CodeGraph.Graph

variable {g : Graph}

/-! ### Facts -/

/-- No node stands at an end of a relationship. -/
def Dangles (g : Graph) (r : Relationship) (e : Endpoint) : Prop :=
  ∀ n ∈ g.nodes, n.id ≠ r.endpoint e

/-- No relationship starts or ends at a node. -/
def Isolated (g : Graph) (n : Node) : Prop :=
  ∀ r ∈ g.relationships, r.source ≠ n.id ∧ r.target ≠ n.id

/-- A node is a file with content that defines nothing and does not say so. -/
def Unaccounted (g : Graph) (n : Node) : Prop :=
  n.label = .file ∧ n.flagged "hasContent" = true ∧
    (∀ r ∈ g.relationships, r.kind = .defines → r.source ≠ n.id) ∧
    n.flagged "noDefinitions" = false

instance (g : Graph) (r : Relationship) (e : Endpoint) : Decidable (g.Dangles r e) :=
  inferInstanceAs (Decidable (∀ _ ∈ _, _))

instance (g : Graph) (n : Node) : Decidable (g.Isolated n) :=
  inferInstanceAs (Decidable (∀ _ ∈ _, _))

instance (g : Graph) (n : Node) : Decidable (g.Unaccounted n) :=
  inferInstanceAs (Decidable (_ ∧ _))

/-- What is reported of an end without a node. -/
def violation (r : Relationship) (e : Endpoint) : Violation where
  relationshipId := r.id
  kind := r.kind
  missing := e
  nodeId := r.endpoint e

/-- What is reported of a file: its path, or its identifier if it has none. -/
def shownPath (n : Node) : PropertyValue :=
  n.properties.getD "path" (.text n.id)

/-- An end dangles exactly if its identifier is not taken. -/
theorem dangles_iff (g : Graph) (r : Relationship) (e : Endpoint) :
    g.Dangles r e ↔ g.hasNode (r.endpoint e) = false := by
  rw [← Bool.not_eq_true, hasNode_iff, ids, List.mem_map]
  simp [Dangles]

/-- A node is isolated exactly if it is not connected. -/
theorem isolated_iff (g : Graph) (n : Node) : g.Isolated n ↔ g.isConnected n.id = false := by
  rw [← Bool.not_eq_true, isConnected_iff]
  simp [Isolated]

/-- A file is the source of a relationship of definition, or it is not. -/
theorem definesSomething_iff (g : Graph) (id : String) :
    g.definesSomething id = true ↔ ∃ r ∈ g.relationships, r.kind = .defines ∧ r.source = id := by
  simp [definesSomething]

theorem unaccounted_iff (g : Graph) (n : Node) : g.Unaccounted n ↔ g.isUnflagged n = true := by
  simp only [isUnflagged, Bool.and_eq_true, decide_eq_true_iff, Bool.not_eq_true',
    ← Bool.not_eq_true, definesSomething_iff, Unaccounted, and_assoc]
  simp

/-! ### One pass over the relationships -/

/-- What a pass over the relationships remembers. -/
structure Scan where
  violations : List Violation := []
  connected : List String := []
  defining : List String := []

namespace Scan

/-- Look at one end of a relationship. -/
def lookAt (g : Graph) (r : Relationship) (s : Scan) (e : Endpoint) : Scan :=
  if g.hasNode (r.endpoint e) then { s with connected := s.connected ++ [r.endpoint e] }
  else { s with violations := s.violations ++ [violation r e] }

/-- Look at both ends of a relationship, and remember what defines something. -/
def look (g : Graph) (s : Scan) (r : Relationship) : Scan :=
  let seen := [Endpoint.source, .target].foldl (lookAt g r) s
  if r.kind = .defines then { seen with defining := seen.defining ++ [r.source] } else seen

/-- Take one node into account. -/
def tell (s : Scan) (report : IntegrityReport) (n : Node) : IntegrityReport :=
  let counted :=
    if n.id ∈ s.connected then report
    else { report with isolatedCounts := report.isolatedCounts.increment n.label.name }
  if n.label = .file ∧ n.flagged "hasContent" = true ∧ n.id ∉ s.defining ∧
      n.flagged "noDefinitions" = false then
    { counted with unflaggedFiles := counted.unflaggedFiles ++ [shownPath n] }
  else counted

/-- What a pass remembers about the relationships it has seen. -/
structure Covers (g : Graph) (s : Scan) (rs : List Relationship) : Prop where
  violations : s.violations = rs.flatMap g.violationsOf
  connected : ∀ id, id ∈ s.connected ↔
    g.hasNode id = true ∧ ∃ r ∈ rs, r.source = id ∨ r.target = id
  defining : ∀ id, id ∈ s.defining ↔ ∃ r ∈ rs, r.kind = .defines ∧ r.source = id

/-- The ends without a node are added to those that were found before. -/
theorem violations_look (s : Scan) (r : Relationship) :
    (s.look g r).violations = s.violations ++ g.violationsOf r := by
  cases hs : g.hasNode (r.endpoint .source) <;> cases ht : g.hasNode (r.endpoint .target) <;>
    by_cases hkind : r.kind = .defines <;>
      simp [look, lookAt, violationsOf, violation, hs, ht, hkind]

/-- An end with a node is connected. -/
theorem mem_connected_lookAt (s : Scan) (r : Relationship) (e : Endpoint) (id : String) :
    id ∈ (lookAt g r s e).connected ↔
      id ∈ s.connected ∨ g.hasNode id = true ∧ r.endpoint e = id := by
  cases hnode : g.hasNode (r.endpoint e) with
  | false =>
    have hother : ¬(g.hasNode id = true ∧ r.endpoint e = id) := by
      rintro ⟨hid, rfl⟩
      exact absurd (hid.symm.trans hnode) (by decide)
    simp [lookAt, hnode, hother]
  | true =>
    simp only [lookAt, hnode, if_true, List.mem_append, List.mem_singleton]
    refine or_congr_right ⟨?_, fun h => h.2.symm⟩
    rintro rfl
    exact ⟨hnode, rfl⟩

/-- Both ends are connected if they have nodes. -/
theorem mem_connected_look (s : Scan) (r : Relationship) (id : String) :
    id ∈ (s.look g r).connected ↔
      id ∈ s.connected ∨ g.hasNode id = true ∧ (r.source = id ∨ r.target = id) := by
  have hends : (s.look g r).connected =
      ([Endpoint.source, .target].foldl (lookAt g r) s).connected := by
    rw [look]
    split <;> rfl
  rw [hends, List.foldl_cons, List.foldl_cons, List.foldl_nil, mem_connected_lookAt,
    mem_connected_lookAt, or_assoc, ← and_or_left, Relationship.endpoint, Relationship.endpoint]

/-- What one end is about says nothing about definition. -/
theorem defining_lookAt (s : Scan) (r : Relationship) (e : Endpoint) :
    (lookAt g r s e).defining = s.defining := by
  rw [lookAt]
  split <;> rfl

/-- The source of a definition is remembered. -/
theorem mem_defining_look (s : Scan) (r : Relationship) (id : String) :
    id ∈ (s.look g r).defining ↔ id ∈ s.defining ∨ r.kind = .defines ∧ r.source = id := by
  by_cases hkind : r.kind = .defines
  · simp [look, hkind, defining_lookAt, eq_comm]
  · simp [look, hkind, defining_lookAt]

/-- One more relationship is seen. -/
theorem Covers.look {s : Scan} {rs : List Relationship} (h : s.Covers g rs) (r : Relationship) :
    (s.look g r).Covers g (rs ++ [r]) := by
  refine ⟨?_, fun id => ?_, fun id => ?_⟩
  · rw [violations_look, h.violations, List.flatMap_append, List.flatMap_singleton]
  · rw [mem_connected_look, h.connected, ← and_or_left]
    simp
  · rw [mem_defining_look, h.defining]
    simp

/-- All relationships are seen in turn. -/
theorem Covers.foldl_look {s : Scan} {seen : List Relationship} (h : s.Covers g seen)
    (rs : List Relationship) : (rs.foldl (Scan.look g) s).Covers g (seen ++ rs) := by
  induction rs generalizing s seen with
  | nil => simpa using h
  | cons r rs ih => simpa using ih (h.look r)

/-- All nodes are taken into account in turn. -/
theorem foldl_tell (s : Scan) (report : IntegrityReport) (ns : List Node) :
    ns.foldl s.tell report =
      { report with
        unflaggedFiles := report.unflaggedFiles ++ (ns.filter fun n =>
          n.label = .file ∧ n.flagged "hasContent" = true ∧ n.id ∉ s.defining ∧
            n.flagged "noDefinitions" = false).map shownPath
        isolatedCounts := ((ns.filter fun n => n.id ∉ s.connected).map (·.label.name)).foldl
          OrderedMap.increment report.isolatedCounts } := by
  induction ns generalizing report with
  | nil => simp
  | cons n ns ih =>
    rw [List.foldl_cons, ih, List.filter_cons, List.filter_cons, tell]
    by_cases hconnected : n.id ∈ s.connected <;>
      by_cases hfile : n.label = .file ∧ n.flagged "hasContent" = true ∧ n.id ∉ s.defining ∧
          n.flagged "noDefinitions" = false <;>
        simp [hconnected, hfile]

end Scan

/-- The findings, collected in one pass over the relationships and one over the nodes. -/
def scanned (g : Graph) : IntegrityReport :=
  let s := g.relationships.foldl (Scan.look g) {}
  g.nodes.foldl s.tell
    { violations := s.violations
      unflaggedFiles := []
      isolatedCounts := ∅
      nodeCount := g.nodes.length
      relationshipCount := g.relationships.length }

/-- The pass collects the findings. -/
theorem scanned_eq_validate (g : Graph) : g.scanned = g.validate := by
  have hstart : Scan.Covers g {} [] := ⟨rfl, by simp, by simp⟩
  have h : (g.relationships.foldl (Scan.look g) {}).Covers g g.relationships :=
    hstart.foldl_look g.relationships
  have hconnected : ∀ n ∈ g.nodes,
      decide (n.id ∉ (g.relationships.foldl (Scan.look g) {}).connected) = !g.isConnected n.id := by
    intro n hn
    have hnode : g.hasNode n.id = true := (hasNode_iff g n.id).mpr (List.mem_map_of_mem hn)
    rw [Bool.eq_iff_iff, decide_eq_true_iff, h.connected, Bool.not_eq_true', ← Bool.not_eq_true,
      isConnected_iff]
    simp [hnode]
  have hunflagged : ∀ n, decide (n.label = .file ∧ n.flagged "hasContent" = true ∧
      n.id ∉ (g.relationships.foldl (Scan.look g) {}).defining ∧
      n.flagged "noDefinitions" = false) = g.isUnflagged n := by
    intro n
    rw [Bool.eq_iff_iff, decide_eq_true_iff, h.defining, ← unaccounted_iff, Unaccounted]
    simp
  simp only [scanned, validate, Scan.foldl_tell, h.violations, hunflagged, List.nil_append,
    List.filter_congr hconnected]
  rfl

/-! ### The findings as facts -/

/-- There is one violation for each end without a node. -/
theorem violations_validate (g : Graph) :
    g.validate.violations =
      ((g.relationships.product [Endpoint.source, .target]).filter fun x =>
        g.Dangles x.1 x.2).map fun x => violation x.1 x.2 := by
  simp only [validate, List.product, List.filter_flatMap, List.map_flatMap]
  refine List.flatMap_congr fun r _ => ?_
  cases hs : g.hasNode (r.endpoint .source) <;> cases ht : g.hasNode (r.endpoint .target) <;>
    simp [violationsOf, violation, dangles_iff, hs, ht]

/-- The files that are not accounted for are listed by their paths. -/
theorem unflaggedFiles_validate (g : Graph) :
    g.validate.unflaggedFiles = (g.nodes.filter fun n => g.Unaccounted n).map shownPath := by
  have hunflagged : ∀ n, g.isUnflagged n = decide (g.Unaccounted n) := by
    intro n
    rw [Bool.eq_iff_iff, decide_eq_true_iff, unaccounted_iff]
  simp only [validate, ← hunflagged]
  rfl

/-- The isolated nodes of a kind are counted under its name, if there are any. -/
theorem get?_isolatedCounts_validate (g : Graph) (kind : NodeKind) :
    g.validate.isolatedCounts.get? kind.name =
      let count := g.nodes.countP fun n => n.label = kind ∧ g.Isolated n
      if count = 0 then none else some count := by
  have hcount : ((g.nodes.filter fun n => !g.isConnected n.id).map (·.label.name)).count kind.name =
      g.nodes.countP fun n => n.label = kind ∧ g.Isolated n := by
    rw [List.count, List.countP_map, List.countP_filter]
    refine List.countP_congr fun n _ => ?_
    have hname : n.label.name = kind.name ↔ n.label = kind :=
      ⟨fun h => NodeKind.name_inj (congrArg String.toList h), congrArg NodeKind.name⟩
    simp [hname, isolated_iff]
  simp only [validate, OrderedMap.get?_tally, ← List.count_pos_iff, hcount]
  split <;> split <;> first | rfl | omega

/--
The findings for a graph are collected in one pass, and they are what they say, whether or not the
graph is sound. There is one violation for each end of a relationship whose node is missing, and no
other. The files without a flag are those that have content, define nothing and do not say so. Under
the name of each kind stands the number of its nodes that no relationship touches, if there are any,
and nothing else is counted.
-/
theorem validate_exact (g : Graph) :
    g.scanned = g.validate ∧
    g.validate.violations =
      ((g.relationships.product [Endpoint.source, .target]).filter fun x =>
        g.Dangles x.1 x.2).map (fun x => violation x.1 x.2) ∧
    g.validate.unflaggedFiles = (g.nodes.filter fun n => g.Unaccounted n).map shownPath ∧
    (∀ kind : NodeKind, g.validate.isolatedCounts.get? kind.name =
      let count := g.nodes.countP fun n => n.label = kind ∧ g.Isolated n
      if count = 0 then none else some count) ∧
    g.validate.isolatedCounts.keys.Nodup ∧
    ∀ key ∈ g.validate.isolatedCounts.keys, ∃ kind : NodeKind, key = kind.name := by
  refine ⟨scanned_eq_validate g, violations_validate g, unflaggedFiles_validate g,
    get?_isolatedCounts_validate g, ?_, fun key hkey => ?_⟩
  · exact OrderedMap.nodup_keys_foldl_increment (m := .empty) List.nodup_nil _
  · rw [← OrderedMap.contains_iff_mem_keys, OrderedMap.contains, validate, OrderedMap.get?_tally,
      Option.isSome_ite, List.mem_map] at hkey
    obtain ⟨n, -, rfl⟩ := hkey
    exact ⟨n.label, rfl⟩

-- a relationship from a missing node to itself is missing both ends
example :
    let g : Graph := { relationships := [{ id := "r", kind := .calls, source := "x", target := "x" }] }
    g.validate.violations.map Violation.missing = [.source, .target] := by
  decide

end CodeGraph.Graph
