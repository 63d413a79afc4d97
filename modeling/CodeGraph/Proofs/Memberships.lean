import CodeGraph.Proofs.Digests
import CodeGraph.Proofs.Scopes
import CodeGraph.Proofs.Sessions

/-!
# Methods belong to the classes around them

When the definitions of a file are written into a graph that does not hold them yet, each method of
a class brings one relationship to it. The class is the one around the method in the syntax tree,
also if other classes of the file have the same name. The digests of the texts that are hashed on
the way are assumed to be different; then no relationship takes the place of another one.

## Main definitions

* `Inventory.Lacks`: a graph does not hold some definitions yet.
* `Inventory.hashed`: the texts behind the identifiers of a file that is written.

## Main results

* `Relationship.of_idSource_eq`: a text with two colons tells the ends of its relationship.
* `Inventory.filter_relationships_addAll`: the relationships to classes that a definition gets.
* `Inventory.node?_addAll`: its node.
* `ParsedFile.method_membership`: a method belongs to the nearest class-like node around it.
-/

namespace CodeGraph

open Inventory (Entry entriesOf)

/-! ### Texts of relationships -/

namespace Relationship

/-- The colons in the text of a relationship are those of its ends and two more. -/
theorem count_idSource (r : Relationship) : r.idSource.toList.count ':' =
    r.source.toList.count ':' + r.target.toList.count ':' + 2 := by
  have hkind : r.kind.name.toList.count ':' = 0 :=
    List.count_eq_zero.mpr (RelKind.colon_notMem_name r.kind)
  simp [idSource, hkind]
  omega

/-- If the ends of a relationship are without colons, its text determines it but its properties. -/
theorem of_idSource_eq {r r' : Relationship} (hsource : ':' ∉ r.source.toList)
    (htarget : ':' ∉ r.target.toList) (h : r'.idSource = r.idSource) :
    r'.source = r.source ∧ r'.kind = r.kind ∧ r'.target = r.target := by
  refine idSource_inj ?_ hsource h
  have hcount := congrArg (fun s : String => s.toList.count ':') h
  simp only [count_idSource, List.count_eq_zero.mpr hsource, List.count_eq_zero.mpr htarget]
    at hcount
  exact List.count_eq_zero.mp (by omega)

end Relationship

namespace Inventory

/-! ### Writing a file -/

/-- A graph holds none of some definitions: neither their nodes, nor what starts there. -/
structure Lacks (v : Inventory) (ds : List Definition) : Prop where
  nodes : ∀ d ∈ ds, d.nodeId ∉ v.graph.ids
  relationships : ∀ d ∈ ds, ∀ r ∈ v.graph.relationships, r.source ≠ d.nodeId

/-- The texts that are hashed: for the definitions of a file, for what they bring, and before. -/
def hashed (v : Inventory) (fileId : String) (ds : List Definition) : List String :=
  ds.map Definition.idSource ++
    (v.graph.relationships ++ (entriesOf fileId ds).flatMap Entry.links).map
      Relationship.idSource

/-- The relationships to classes that a definition has. -/
def isMembershipOf (d : Definition) (r : Relationship) : Bool :=
  r.kind = .belongsTo && r.source = d.nodeId

/-- A definition is offered once. -/
theorem filter_entriesOf {ds : List Definition} (hnodup : (ds.map Definition.nodeId).Nodup)
    (fileId : String) {d : Definition} (hd : d ∈ ds) :
    (entriesOf fileId ds).filter (·.id = d.nodeId) =
      [⟨fileId, ds.filter (·.kind.isType), d⟩] := by
  have hone := filter_key_eq_singleton hnodup hd
  rw [entriesOf, List.filter_map]
  exact congrArg _ hone

/-- Of the relationships of a file, those of a definition to classes are its own. -/
theorem filter_links {ds : List Definition} (hnodup : (ds.map Definition.nodeId).Nodup)
    (fileId : String) {d : Definition} (hd : d ∈ ds) :
    ((entriesOf fileId ds).flatMap Entry.links).filter (isMembershipOf d) =
      (membership? (ds.filter (·.kind.isType)) d).toList := by
  have hkind : ((entriesOf fileId ds).flatMap Entry.links).filter (·.kind = .belongsTo) =
      (entriesOf fileId ds).flatMap fun x => (membership? x.types x.definition).toList := by
    rw [List.filter_flatMap]
    refine List.flatMap_congr fun x _ => ?_
    rw [Entry.links, List.filter_cons_of_neg (by simp [Entry.definesEdge, Relationship.between])]
    refine List.filter_eq_self.mpr fun r hr => ?_
    obtain ⟨owner, -, rfl⟩ := exists_of_membership? (Option.mem_toList.mp hr)
    rfl
  have hsplit : ∀ rs : List Relationship, rs.filter (isMembershipOf d) =
      (rs.filter (·.kind = .belongsTo)).filter (·.source = d.nodeId) := by
    intro rs
    rw [List.filter_filter]
    exact List.filter_congr fun r _ => Bool.and_comm _ _
  have hsource : ∀ x ∈ entriesOf fileId ds, ∀ r ∈ (membership? x.types x.definition).toList,
      r.source = x.id := by
    intro x _ r hr
    obtain ⟨owner, -, rfl⟩ := exists_of_membership? (Option.mem_toList.mp hr)
    rfl
  rw [hsplit, hkind, filter_flatMap_eq hsource, filter_entriesOf hnodup fileId hd,
    List.flatMap_singleton]

section Written

variable {v : Inventory} {fileId : String} {ds : List Definition}
  (hauthentic : ∀ d ∈ ds, d.nodeId = Identifier.digest d.idSource)
  (hdistinct : (ds.map Definition.idSource).Nodup) (hlacks : v.Lacks ds)
  (hinj : Set.InjOn Identifier.digest {t | t ∈ v.hashed fileId ds})

include hauthentic hdistinct hinj in
/-- The identifiers of the definitions are different. -/
theorem nodup_nodeId : (ds.map Definition.nodeId).Nodup := by
  refine List.pairwise_map.mpr ((List.pairwise_map.mp hdistinct).imp_of_mem ?_)
  intro d e hd he hne heq
  rw [hauthentic d hd, hauthentic e he] at heq
  exact hne (hinj (List.mem_append_left _ (List.mem_map_of_mem hd))
    (List.mem_append_left _ (List.mem_map_of_mem he)) heq)

include hauthentic hdistinct hlacks hinj

/-- All definitions are entered. -/
theorem entered_entriesOf : entered v.graph.ids (entriesOf fileId ds) = entriesOf fileId ds := by
  refine fresh_eq_self ?_ fun x hx => ?_
  · have hids : (entriesOf fileId ds).map Entry.id = ds.map Definition.nodeId := by
      rw [entriesOf, List.map_map]
      rfl
    rw [hids]
    exact nodup_nodeId hauthentic hdistinct hinj
  · obtain ⟨d, hd, rfl⟩ := List.mem_map.mp hx
    exact hlacks.nodes d hd

/-- Each definition has its node. -/
theorem node?_addAll {d : Definition} (hd : d ∈ ds) :
    (v.addAll fileId ds).graph.node? d.nodeId = some (nodeOf d) := by
  have hnodes : ((entriesOf fileId ds).map Entry.attachment).map Prod.fst = ds.map nodeOf := by
    rw [entriesOf, List.map_map, List.map_map]
    rfl
  have hids : (ds.map nodeOf).map Node.id = ds.map Definition.nodeId := by
    rw [List.map_map]
    rfl
  have hnodup := nodup_nodeId hauthentic hdistinct hinj
  have hfresh : fresh Node.id v.graph.ids (ds.map nodeOf) = ds.map nodeOf := by
    refine fresh_eq_self (hids.symm ▸ hnodup) fun n hn => ?_
    obtain ⟨e, he, rfl⟩ := List.mem_map.mp hn
    exact hlacks.nodes e he
  have hold : v.graph.nodes.find? (·.id = d.nodeId) = none := by
    refine List.find?_eq_none.mpr fun n hn hid => hlacks.nodes d hd ?_
    exact List.mem_map.mpr ⟨n, hn, of_decide_eq_true hid⟩
  have hnew : (⟨ds.map nodeOf, []⟩ : Graph).node? (nodeOf d).id = some (nodeOf d) := by
    refine Graph.node?_eq_some ?_ (List.mem_map_of_mem hd)
    rw [Graph.ids, hids]
    exact hnodup
  rw [addAll_eq, foldl_addEntry, Graph.node?, Graph.nodes_foldl_attach,
    entered_entriesOf hauthentic hdistinct hlacks hinj, hnodes, hfresh, List.find?_append, hold]
  exact hnew

variable (hderived : ∀ r ∈ v.graph.relationships, r.IsDerived)

include hderived

omit hdistinct hlacks in
/-- What has the identifier of a relationship to a class is such a relationship. -/
theorem isMembershipOf_of_id_eq {d : Definition} {r r' : Relationship} (hd : d ∈ ds)
    (hr : membership? (ds.filter (·.kind.isType)) d = some r)
    (hr' : r' ∈ v.graph.relationships ++ (entriesOf fileId ds).flatMap Entry.links)
    (hid : r'.id = r.id) : isMembershipOf d r' = true := by
  obtain ⟨owner, howner, rfl⟩ := exists_of_membership? hr
  have hmem : (Relationship.between .belongsTo d.nodeId owner.nodeId) ∈
      (entriesOf fileId ds).flatMap Entry.links := by
    refine List.mem_flatMap.mpr ⟨⟨fileId, ds.filter (·.kind.isType), d⟩, List.mem_map_of_mem hd, ?_⟩
    exact List.mem_cons_of_mem _ (Option.mem_toList.mpr hr)
  have hdigest : r'.id = Identifier.digest r'.idSource := by
    rcases List.mem_append.mp hr' with hold | hnew
    · exact hderived r' hold
    · obtain ⟨x, -, hx⟩ := List.mem_flatMap.mp hnew
      rcases List.mem_cons.mp hx with rfl | hx
      · rfl
      · obtain ⟨owner', -, rfl⟩ := exists_of_membership? (Option.mem_toList.mp hx)
        rfl
  have htext := hinj (List.mem_append_right _ (List.mem_map_of_mem hr'))
    (List.mem_append_right _ (List.mem_map_of_mem (List.mem_append_right _ hmem)))
    (hdigest.symm.trans hid)
  have hcolon : ∀ e ∈ ds, ':' ∉ e.nodeId.toList := fun e he => by
    rw [hauthentic e he]
    exact Identifier.colon_notMem_digest _
  obtain ⟨hsource, hkind, -⟩ := Relationship.of_idSource_eq
    (r := .between .belongsTo d.nodeId owner.nodeId) (hcolon d hd)
    (hcolon owner (List.mem_of_mem_filter howner)) htext
  exact Bool.and_eq_true_iff.mpr ⟨decide_eq_true hkind, decide_eq_true hsource⟩

/-- The relationships to classes that a definition gets are the one to the type that owns it. -/
theorem filter_relationships_addAll {d : Definition} (hd : d ∈ ds) :
    (v.addAll fileId ds).graph.relationships.filter (isMembershipOf d) =
      (membership? (ds.filter (·.kind.isType)) d).toList := by
  have hlinks : ((entriesOf fileId ds).map Entry.attachment).flatMap Prod.snd =
      (entriesOf fileId ds).flatMap Entry.links := by
    rw [List.flatMap_map]
    rfl
  have hold : v.graph.relationships.filter (isMembershipOf d) = [] := by
    refine List.filter_eq_nil_iff.mpr fun r hr h => hlacks.relationships d hd r hr ?_
    simp only [isMembershipOf, Bool.and_eq_true, decide_eq_true_eq] at h
    exact h.2
  have hown := filter_links (nodup_nodeId hauthentic hdistinct hinj) fileId hd
  rw [addAll_eq, foldl_addEntry, Graph.relationships_foldl_attach,
    entered_entriesOf hauthentic hdistinct hlacks hinj, hlinks, List.filter_append, hold,
    List.nil_append, filter_fresh, hown]
  · refine fresh_eq_self ?_ fun r hr htaken => ?_
    · cases membership? (ds.filter (·.kind.isType)) d <;> simp
    · obtain ⟨r', hr', hid⟩ := List.mem_map.mp htaken
      have hmember := isMembershipOf_of_id_eq hauthentic hinj hderived hd
        (Option.mem_toList.mp hr) (List.mem_append_left _ hr') hid
      exact List.filter_eq_nil_iff.mp hold r' hr' hmember
  · -- relationships under one identifier both lead from the definition to a class, or none does
    have hsame : ∀ r ∈ (entriesOf fileId ds).flatMap Entry.links,
        ∀ r' ∈ (entriesOf fileId ds).flatMap Entry.links, r'.id = r.id →
          isMembershipOf d r = true → isMembershipOf d r' = true := by
      intro r hr r' hr' hid hmember
      have hmem := List.mem_filter.mpr ⟨hr, hmember⟩
      rw [hown] at hmem
      exact isMembershipOf_of_id_eq hauthentic hinj hderived hd (Option.mem_toList.mp hmem)
        (List.mem_append_right _ hr') hid
    exact fun r hr r' hr' hid =>
      Bool.eq_iff_iff.mpr ⟨hsame r hr r' hr' hid.symm, hsame r' hr' r hr hid⟩

end Written

end Inventory

/--
Take a syntax tree in which ranges are nested and ordered, and those of nested entities different.
Write the definitions of the file into a graph that does not hold them yet. Each method of the file
that is not empty then belongs to one class only, if the nearest class-like node around it was taken
for a type, has one name, and has no enumeration of TypeScript below it and around the method. The
class has the name and the range of that node, whatever other classes of the file are called.
-/
theorem ParsedFile.method_membership (l : Language) (broken : List BrokenQuery)
    (path content : String) {tree : SyntaxTree} (ht : tree.Nested)
    (hlayered : SourceTree.Layered ⟨tree, content.toUTF8⟩ l broken path) :
    let src : SourceTree := ⟨tree, content.toUTF8⟩
    let f := extract l broken path content tree
    ∀ (v : Inventory) (fileId : String), v.Lacks f.definitions →
      (∀ r ∈ v.graph.relationships, r.IsDerived) →
      Set.InjOn Identifier.digest {t | t ∈ v.hashed fileId f.definitions} →
    ∀ d ∈ f.definitions, d.kind = .methodDecl → d.startByte < d.endByte →
    ∀ i a, (i, d) ∈ src.declarations l broken path → src.nearestClass? l i = some a →
      a ∈ src.typeNodes l broken path → (tree.childrenByField a "name").length ≤ 1 →
      (∀ b ∈ tree.ancestors i, tree.kind b ∈ l.unscopedKinds → a ∉ tree.ancestors b) →
    let g := (v.addAll fileId f.definitions).graph
    ∃ owner ∈ f.definitions, owner.kind.isType = true ∧ owner.name = src.className a ∧
      owner.startByte = (tree.node a).start ∧ owner.endByte = (tree.node a).stop ∧
      g.node? owner.nodeId = some (Inventory.nodeOf owner) ∧
      g.relationships.filter (fun r => r.kind = .belongsTo && r.source = d.nodeId) =
        [.between .belongsTo d.nodeId owner.nodeId] := by
  intro src f v fileId hlacks hderived hinj d hd hkind hne i a hi ha htype honce hbetween g
  obtain ⟨owner, hmem, howner, hname, hstart, hstop⟩ :=
    SourceTree.exists_owningClass? ht hlayered hi hkind hne ha htype honce hbetween
  obtain ⟨hmem, hisType⟩ := List.mem_filter.mp hmem
  have hauthentic : ∀ d ∈ f.definitions, d.nodeId = Identifier.digest d.idSource := fun d hd =>
    (SourceTree.authentic_of_mem_definitions hd).nodeId
  have hdistinct : (f.definitions.map Definition.idSource).Nodup :=
    src.nodup_idSource_definitions l broken path
  refine ⟨owner, hmem, hisType, hname, hstart, hstop,
    Inventory.node?_addAll hauthentic hdistinct hlacks hinj hmem, ?_⟩
  -- the method has a class with a name, so its owner is looked for
  have hmembership : Inventory.membership? (f.definitions.filter (·.kind.isType)) d =
      some (.between .belongsTo d.nodeId owner.nodeId) := by
    obtain ⟨c, hparent, hc⟩ := SourceTree.exists_parentClass_of_mem_definitions hd hkind
    have hpresent : present? d.parentClass = some c := by
      rw [hparent, present?, Option.filter_some, if_pos (decide_eq_true hc)]
    have howner : owningClass? (f.definitions.filter (·.kind.isType)) d = some owner := howner
    simp only [Inventory.membership?, if_pos hkind, hpresent, howner, Option.bind_eq_bind,
      Option.bind_some]
  have hedges :=
    Inventory.filter_relationships_addAll hauthentic hdistinct hlacks hinj hderived hd
  rw [hmembership] at hedges
  exact hedges

/-! ### Nested classes of one name -/

namespace NestedClasses

/-- A method in a class that stands in a class of the same name. -/
def source : String :=
  "class A:\n class A:\n  def f():pass"

/-- Its syntax tree. -/
def tree : SyntaxTree := .ofRows
  [⟨"module", true, none, 0, 33, none, []⟩,
   ⟨"class_definition", true, none, 0, 33, some 0, []⟩,
   ⟨"class", false, none, 0, 5, some 1, []⟩,
   ⟨"identifier", true, some "name", 6, 7, some 1, []⟩,
   ⟨":", false, none, 7, 8, some 1, []⟩,
   ⟨"block", true, some "body", 10, 33, some 1, []⟩,
   ⟨"class_definition", true, none, 10, 33, some 5, []⟩,
   ⟨"class", false, none, 10, 15, some 6, []⟩,
   ⟨"identifier", true, some "name", 16, 17, some 6, []⟩,
   ⟨":", false, none, 17, 18, some 6, []⟩,
   ⟨"block", true, some "body", 21, 33, some 6, []⟩,
   ⟨"function_definition", true, none, 21, 33, some 10, []⟩,
   ⟨"def", false, none, 21, 24, some 11, []⟩,
   ⟨"identifier", true, some "name", 25, 26, some 11, []⟩,
   ⟨"parameters", true, some "parameters", 26, 28, some 11, []⟩,
   ⟨"(", false, none, 26, 27, some 14, []⟩,
   ⟨")", false, none, 27, 28, some 14, []⟩,
   ⟨":", false, none, 28, 29, some 11, []⟩,
   ⟨"block", true, some "body", 29, 33, some 11, []⟩,
   ⟨"pass_statement", true, none, 29, 33, some 18, []⟩,
   ⟨"pass", false, none, 29, 33, some 19, []⟩] false

/-- The tree with its text. -/
def src : SourceTree :=
  ⟨tree, source.toUTF8⟩

/-- What the queries match: the method, and both classes. -/
theorem run_eq : pythonQueries.map (fun x => x.2.run src) =
    [[⟨0, 11, 13, [("node", 11), ("name", 13)]⟩],
     [⟨0, 1, 3, [("node", 1), ("name", 3)]⟩, ⟨0, 6, 8, [("node", 6), ("name", 8)]⟩],
     [], [], [], []] := by
  decide +kernel

set_option maxRecDepth 2000 in
/-- What is declared, by node, kind and text, and that there are no imports. -/
theorem declarations_eq : (src.declarations .python [] "a.py").map
      (fun x => (x.1, x.2.kind, x.2.idSource)) =
        [(11, .methodDecl, "method:a.py:f:21:33"), (1, .classDecl, "class:a.py:A:0:33"),
         (6, .classDecl, "class:a.py:A:10:33")] ∧
    (src.finds .python [] "a.py").map Definition.kind = [.methodDecl, .classDecl, .classDecl] := by
  have hdeclarations : src.declarations .python [] "a.py" =
      ((pythonQueries.map Prod.fst).zip (pythonQueries.map fun x => x.2.run src)).flatMap
        (fun x => x.2.filterMap fun m => do
          let kind ← x.1.definitionKind?
          let i ← m.node? "node"
          let d ← src.declaration? .python "a.py" kind m
          some (i, d)) :=
    rfl
  have hfinds : src.finds .python [] "a.py" =
      ((pythonQueries.map Prod.fst).zip (pythonQueries.map fun x => x.2.run src)).flatMap
        fun x =>
          if x.1 = .calls then []
          else x.1.definitionKind?.elim (x.2.flatMap (src.importDefinitions .python "a.py" x.1))
            fun kind => x.2.filterMap (src.declaration? .python "a.py" kind) :=
    rfl
  rw [hdeclarations, hfinds, run_eq]
  decide

/-- Every definition of the file is declared, and one of these three. -/
theorem exists_mem_declarations {d : Definition} (h : d ∈ src.definitions .python [] "a.py") :
    ∃ i, (i, d) ∈ src.declarations .python [] "a.py" ∧ (i, d.kind, d.idSource) ∈
      [(11, DefinitionKind.methodDecl, "method:a.py:f:21:33"),
       (1, .classDecl, "class:a.py:A:0:33"), (6, .classDecl, "class:a.py:A:10:33")] := by
  have hfound := SourceTree.mem_finds_of_mem_definitions h
  have hkind : d.kind ∈ [DefinitionKind.methodDecl, .classDecl, .classDecl] :=
    declarations_eq.2 ▸ List.mem_map_of_mem hfound
  have hother : d.kind ≠ .importDecl := fun heq => by simp [heq] at hkind
  obtain ⟨i, hi⟩ := SourceTree.exists_mem_declarations hfound hother
  have hlisted := List.mem_map_of_mem
    (f := fun x : Nat × Definition => (x.1, x.2.kind, x.2.idSource)) hi
  rw [declarations_eq.1] at hlisted
  exact ⟨i, hi, hlisted⟩

set_option maxRecDepth 2000 in
/-- The inner class has the one name and the range of the node nearest to the method. -/
theorem facts :
    tree.Nested ∧
    (∀ i ∈ [11, 1, 6], ∀ j ∈ [11, 1, 6], i ∈ tree.ancestors j →
      (tree.node i).start < (tree.node j).start ∨ (tree.node j).stop < (tree.node i).stop) ∧
    ((tree.node 11).start = 21 ∧ (tree.node 11).stop = 33) ∧
    src.nearestClass? .python 11 = some 6 ∧ src.className 6 = "A" ∧
    (tree.childrenByField 6 "name").length ≤ 1 ∧
    (tree.node 6).start = 10 ∧ (tree.node 6).stop = 33 := by
  decide

theorem layered : src.Layered .python [] "a.py" := by
  have hnodes : src.declaredNodes .python [] "a.py" = [11, 1, 6] := by
    have hfirst := congrArg (List.map Prod.fst) declarations_eq.1
    rw [List.map_map] at hfirst
    exact hfirst
  rw [SourceTree.Layered, hnodes]
  exact facts.2.1

/-- The texts that are hashed, those of both classes as the owners of the method included. -/
def texts : List String :=
  ["method:a.py:f:21:33", "class:a.py:A:0:33", "class:a.py:A:10:33",
   (Relationship.between .defines "file" "977073168488e5fc104a7e76").idSource,
   (Relationship.between .defines "file" "9b6fe365507884b161965429").idSource,
   (Relationship.between .defines "file" "34583d33f2e2761a9ed34b07").idSource,
   (Relationship.between .belongsTo "977073168488e5fc104a7e76"
     "9b6fe365507884b161965429").idSource,
   (Relationship.between .belongsTo "977073168488e5fc104a7e76"
     "34583d33f2e2761a9ed34b07").idSource]

/-- The identifiers of the definitions, and how those of the relationships start. -/
theorem digests :
    (Identifier.digest "method:a.py:f:21:33" = "977073168488e5fc104a7e76" ∧
      Identifier.digest "class:a.py:A:0:33" = "9b6fe365507884b161965429" ∧
      Identifier.digest "class:a.py:A:10:33" = "34583d33f2e2761a9ed34b07") ∧
    (texts.drop 3).map Identifier.firstDigits =
      [['5', '1', '1', '8'], ['f', 'e', 'c', 'e'], ['9', 'e', '8', '2'], ['2', 'e', 'd', 'a'],
        ['6', 'f', 'f', 'f']] := by
  simp only [texts, List.drop, List.map_cons, List.map_nil, Identifier.firstDigits_eq,
    Identifier.digest_eq_iff]
  decide +kernel

/-- The digests of the texts start differently. -/
theorem nodup_firstDigits : (texts.map Identifier.firstDigits).Nodup := by
  obtain ⟨⟨hmethod, houter, hinner⟩, hedges⟩ := digests
  have hdefinitions : (texts.take 3).map Identifier.firstDigits =
      [['9', '7', '7', '0'], ['9', 'b', '6', 'f'], ['3', '4', '5', '8']] := by
    simp only [texts, List.take, List.map_cons, List.map_nil, Identifier.firstDigits, hmethod,
      houter, hinner]
    decide
  rw [← List.take_append_drop 3 texts, List.map_append, hdefinitions, hedges]
  decide

/-- The identifiers of the method and of the classes. -/
theorem nodeId_cases {d : Definition} (h : d ∈ src.definitions .python [] "a.py") :
    d.kind = .methodDecl ∧ d.nodeId = "977073168488e5fc104a7e76" ∨
      d.kind ≠ .methodDecl ∧
        d.nodeId ∈ ["9b6fe365507884b161965429", "34583d33f2e2761a9ed34b07"] := by
  obtain ⟨i, -, hlisted⟩ := exists_mem_declarations h
  obtain ⟨⟨hmethod, houter, hinner⟩, -⟩ := digests
  rw [(SourceTree.authentic_of_mem_definitions h).nodeId]
  simp only [List.mem_cons, Prod.mk.injEq, List.not_mem_nil, or_false] at hlisted
  rcases hlisted with ⟨-, hkind, htext⟩ | ⟨-, hkind, htext⟩ | ⟨-, hkind, htext⟩
  · exact .inl ⟨hkind, by rw [htext, hmethod]⟩
  · exact .inr ⟨by simp [hkind], by rw [htext, houter]; exact List.mem_cons_self⟩
  · exact .inr ⟨by simp [hkind],
      by rw [htext, hinner]; exact List.mem_cons_of_mem _ List.mem_cons_self⟩

/-- Whatever is hashed for definitions with these texts and identifiers is in the list. -/
theorem mem_texts {ds : List Definition} (htexts : ∀ d ∈ ds, d.idSource ∈ texts.take 3)
    (hids : ∀ d ∈ ds, d.kind = .methodDecl ∧ d.nodeId = "977073168488e5fc104a7e76" ∨
      d.kind ≠ .methodDecl ∧
        d.nodeId ∈ ["9b6fe365507884b161965429", "34583d33f2e2761a9ed34b07"])
    {t : String} (ht : t ∈ ({} : Inventory).hashed "file" ds) : t ∈ texts := by
  rcases List.mem_append.mp ht with ht | ht
  · obtain ⟨d, hd, rfl⟩ := List.mem_map.mp ht
    exact List.mem_of_mem_take (htexts d hd)
  · obtain ⟨r, hr, rfl⟩ := List.mem_map.mp ht
    obtain ⟨x, hx, hr⟩ := List.mem_flatMap.mp hr
    obtain ⟨d, hd, rfl⟩ := List.mem_map.mp hx
    rcases List.mem_cons.mp hr with rfl | hr
    · rcases hids d hd with ⟨-, hid⟩ | ⟨-, hid⟩
      · simp [texts, Entry.definesEdge, Entry.id, hid]
      · rcases List.mem_pair.mp hid with hid | hid <;>
          simp [texts, Entry.definesEdge, Entry.id, hid]
    · have hmembership := Option.mem_toList.mp hr
      have hmethod := Inventory.kind_of_membership? hmembership
      obtain ⟨owner, howner, rfl⟩ := Inventory.exists_of_membership? hmembership
      obtain ⟨howner, htype⟩ := List.mem_filter.mp howner
      have hid := ((hids d hd).resolve_right fun h => h.1 hmethod).2
      rcases hids _ howner with ⟨hkind, -⟩ | ⟨-, hid'⟩
      · simp [hkind, DefinitionKind.isType] at htype
      · rcases List.mem_pair.mp hid' with hid' | hid' <;> simp [texts, hid, hid']

theorem injOn_hashed : Set.InjOn Identifier.digest
    {t | t ∈ ({} : Inventory).hashed "file" (src.definitions .python [] "a.py")} := by
  refine (Identifier.injOn_digest nodup_firstDigits).mono fun t ht =>
    mem_texts (fun d hd => ?_) (fun d hd => nodeId_cases hd) ht
  obtain ⟨i, -, hlisted⟩ := exists_mem_declarations hd
  exact List.mem_map_of_mem (f := fun x : Nat × DefinitionKind × String => x.2.2) hlisted

/-- The method is one of the definitions, and read off its node. -/
theorem exists_method : ∃ d ∈ src.definitions .python [] "a.py", d.kind = .methodDecl ∧
    (11, d) ∈ src.declarations .python [] "a.py" ∧ d.startByte < d.endByte := by
  have hlisted : (11, DefinitionKind.methodDecl, "method:a.py:f:21:33") ∈
      (src.declarations .python [] "a.py").map fun x => (x.1, x.2.kind, x.2.idSource) := by
    rw [declarations_eq.1]
    exact List.mem_cons_self
  obtain ⟨⟨i, d⟩, hd, hfacts⟩ := List.mem_map.mp hlisted
  obtain ⟨e, he, hkey⟩ :=
    SourceTree.exists_mem_definitions (SourceTree.mem_finds_of_mem_declarations hd)
  have hkind : e.kind = .methodDecl :=
    (Definition.sameEntity_iff.mp (Definition.key_eq_iff.mp hkey)).1.trans
      (Prod.mk.inj (Prod.mk.inj hfacts).2).1
  obtain ⟨j, hj, hlisted⟩ := exists_mem_declarations he
  rw [hkind] at hlisted
  obtain ⟨rfl, -⟩ : j = 11 ∧ e.idSource = "method:a.py:f:21:33" := by simpa using hlisted
  obtain ⟨hstart, hstop⟩ := SourceTree.range_of_mem_declarations hj
  obtain ⟨-, -, ⟨hfirst, hlast⟩, -⟩ := facts
  have hfirst : (src.tree.node 11).start = 21 := hfirst
  have hlast : (src.tree.node 11).stop = 33 := hlast
  refine ⟨e, he, hkind, hj, ?_⟩
  rw [hstart, hstop, hfirst, hlast]
  decide

/-- The inner class is a type of the file. -/
theorem mem_typeNodes : 6 ∈ src.typeNodes .python [] "a.py" := by
  have hlisted : (6, DefinitionKind.classDecl, "class:a.py:A:10:33") ∈
      (src.declarations .python [] "a.py").map fun x => (x.1, x.2.kind, x.2.idSource) := by
    rw [declarations_eq.1]
    exact List.mem_of_getLast? rfl
  obtain ⟨⟨i, d⟩, hd, hfacts⟩ := List.mem_map.mp hlisted
  obtain ⟨rfl, hkind⟩ := Prod.mk.inj hfacts
  exact SourceTree.mem_typeNodes.mpr ⟨d, hd, by rw [(Prod.mk.inj hkind).1]; rfl⟩

end NestedClasses

/-- The method in two classes of one name belongs to the inner one. -/
theorem ParsedFile.method_membership_inner :
    let f := extract .python [] "a.py" NestedClasses.source NestedClasses.tree
    ∃ d ∈ f.definitions, d.kind = .methodDecl ∧ ∃ owner ∈ f.definitions,
      owner.name = "A" ∧ owner.startByte = 10 ∧ owner.endByte = 33 ∧
      (({} : Inventory).addAll "file" f.definitions).graph.relationships.filter
          (fun r => r.kind = .belongsTo && r.source = d.nodeId) =
        [.between .belongsTo d.nodeId owner.nodeId] := by
  intro f
  obtain ⟨d, hd, hkind, hnode, hne⟩ := NestedClasses.exists_method
  obtain ⟨hnested, -, -, hnearest, hname, honce, hstart, hstop⟩ := NestedClasses.facts
  have hlacks : ({} : Inventory).Lacks f.definitions :=
    ⟨fun _ _ => List.not_mem_nil, fun _ _ _ hr => absurd hr List.not_mem_nil⟩
  obtain ⟨owner, howner, -, hname', hstart', hstop', -, hedges⟩ :=
    method_membership .python [] "a.py" NestedClasses.source hnested
      NestedClasses.layered {} "file" hlacks (fun r hr => absurd hr List.not_mem_nil)
      NestedClasses.injOn_hashed d hd hkind hne 11 6 hnode hnearest NestedClasses.mem_typeNodes
      honce (fun b _ hb => absurd hb List.not_mem_nil)
  refine ⟨d, hd, hkind, owner, howner, hname'.trans hname, ?_, ?_, hedges⟩
  · rw [hstart', hstart]
    rfl
  · rw [hstop', hstop]
    rfl

end CodeGraph
