import CodeGraph.Proofs.Callers
import CodeGraph.Proofs.Grammar

/-!
# The class around a method

Extraction walks up from a method to the nearest class-like node, and keeps nothing but its name.
The class is found again without the tree: of the classes, interfaces and enumerations with that
name, the smallest one around the whole method. Several classes of a file may have the name, and be
nested in each other. But in a tree with nested ranges, whatever lies around a method is one of its
ancestors, and of these the smallest one is the nearest one. So both searches end at the same node.

The enumerations of TypeScript are the exception: they define types, and the walk passes them by.

## Main definitions

* `Pattern.declares?`: patterns that ask for an entity and its name.
* `SourceTree.typeNodes`: the nodes of classes, interfaces and enumerations.
* `SourceTree.Layered`: the ranges of nested entities are different.
* `SourceTree.nearestClass?`, `SourceTree.className`: the nearest class-like node, and its name.

## Main results

* `SourceTree.enclosingClass?_eq_some`: the class of an entity is named by the nearest such node.
* `SourceTree.of_mem_declarations_type`: the nodes of types are class-like, apart from enumerations.
* `SourceTree.exists_owningClass?`: the type that owns a method has the range and the name of the
  nearest class-like node.
-/

namespace CodeGraph

/-! ### Patterns of types -/

namespace Pattern

/-- The kinds of an entity and of its name, if these are all that a pattern asks for. -/
def declares? : Pattern → Option (String × String)
  | mk (some kind) none false (some "node")
      [mk (some nameKind) (some "name") false (some "name") []] => some (kind, nameKind)
  | _ => none

/-- Such a pattern captures an entity and a child that is a name. -/
theorem of_captures_declares? {t : SyntaxTree} {p : Pattern} {kind nameKind : String} {i : Nat}
    {captures : List (String × Nat)} (hp : p.declares? = some (kind, nameKind))
    (h : p.Captures t i captures) :
    t.Admits (some kind) none i ∧ ∃ n ∈ t.children i, t.Admits (some nameKind) (some "name") n ∧
      captures = [("node", i), ("name", n)] := by
  unfold declares? at hp
  split at hp
  · cases hp
    obtain ⟨hadmits, n, hn, below, hbelow, rfl⟩ := captures_one_iff.mp h
    obtain ⟨hname, rfl⟩ := captures_leaf_iff.mp hbelow
    exact ⟨hadmits, n, hn, hname, rfl⟩
  · cases hp

end Pattern

namespace Language

/-- Kinds of nodes that define types but open no class scope: the enumerations of TypeScript. -/
def unscopedKinds : Language → List String
  | typescript | tsx => ["enum_declaration"]
  | python | javascript | java => []

/-- Types are looked for with identifiers for names; all but some enumerations are class-like. -/
theorem declares?_of_isType (l : Language) : ∀ x ∈ l.queries,
    x.1.definitionKind?.any (·.isType) = true → ∀ p ∈ x.2.patterns, ∃ k ∈ p.declares?,
      k.2 ∈ ["identifier", "type_identifier"] ∧ k.1 ∈ l.classKinds ++ l.unscopedKinds := by
  cases l <;> decide

/-- What is looked for as function or method is no type. -/
theorem notMem_nodeKinds_of_function (l : Language) : ∀ x ∈ l.queries,
    x.1.definitionKind? ∈ [some .functionDecl, some .methodDecl] →
      ∀ k ∈ l.classKinds ++ l.unscopedKinds, some k ∉ x.2.nodeKinds := by
  cases l <;> decide

end Language

namespace SourceTree

variable {src : SourceTree} {l : Language} {broken : List BrokenQuery} {path : String}

/-! ### Names of classes -/

/-- The nearest class-like node around a node. -/
def nearestClass? (src : SourceTree) (l : Language) (i : Nat) : Option Nat :=
  (src.tree.ancestors i).find? fun a => decide (src.tree.kind a ∈ l.classKinds)

/-- The name of a class-like node. -/
def className (src : SourceTree) (a : Nat) : String :=
  src.optionalText (src.tree.childByField? a "name")

/-- The class of an entity is named by the nearest class-like node. -/
theorem enclosingClass?_eq_some {i : Nat} {c : String} (h : src.enclosingClass? l i = some c) :
    ∃ a, src.nearestClass? l i = some a ∧ src.className a = c := by
  obtain ⟨a, ha, hname, -⟩ := exists_of_classAmong h
  exact ⟨a, ha, hname⟩

/-- An identifier gives its text as the name. -/
theorem text_eq_of_declaredName? {n : Nat} {name : String}
    (hkind : src.tree.kind n ∈ ["identifier", "type_identifier"])
    (h : src.declaredName? n = some name) : src.text n = name := by
  have hplain : (src.tree.node n).kind ∉ patternKinds := by
    change src.tree.kind n ∉ patternKinds
    rcases List.mem_pair.mp hkind with heq | heq <;> rw [heq] <;> decide
  unfold declaredName? at h
  dsimp only at h
  rw [if_neg hplain] at h
  split at h
  · cases h
  · split at h
    · split at h
      · cases h
      · exact Option.some.inj h
    · cases h

/-! ### Nodes of types and methods -/

/-- The nodes of the entities that the queries declare. -/
def declaredNodes (src : SourceTree) (l : Language) (broken : List BrokenQuery) (path : String) :
    List Nat :=
  (src.declarations l broken path).map Prod.fst

/-- The nodes that the queries take for classes, interfaces and enumerations. -/
def typeNodes (src : SourceTree) (l : Language) (broken : List BrokenQuery) (path : String) :
    List Nat :=
  ((src.declarations l broken path).filter (·.2.kind.isType)).map Prod.fst

theorem mem_declaredNodes {i : Nat} : i ∈ src.declaredNodes l broken path ↔
    ∃ d, (i, d) ∈ src.declarations l broken path := by
  simp [declaredNodes]

theorem mem_typeNodes {i : Nat} : i ∈ src.typeNodes l broken path ↔
    ∃ d, (i, d) ∈ src.declarations l broken path ∧ d.kind.isType = true := by
  simp [typeNodes]

/-- The node of a type is class-like or an enumeration. If it has one name, this is the type's. -/
theorem of_mem_declarations_type {b : Nat} {t : Definition}
    (hb : (b, t) ∈ src.declarations l broken path) (ht : t.kind.isType = true) :
    b < src.tree.nodes.size ∧ src.tree.kind b ∈ l.classKinds ++ l.unscopedKinds ∧
      ((src.tree.childrenByField b "name").length ≤ 1 → t.name = src.className b) := by
  obtain ⟨name, q, kind, m, hq, -, hkind, hm, hnode, hd⟩ := mem_declarations.mp hb
  obtain ⟨i, hi, hname, -, hinside, -⟩ := exists_of_declaration? hd
  obtain rfl := Option.some.inj (hnode.symm.trans hi)
  have htype : kind.isType = true := by
    rw [hinside] at ht
    rcases src.kindInside_cases kind (src.enclosingClass? l b) b with heq | ⟨-, heq⟩ | ⟨-, heq⟩
    · rwa [heq] at ht
    · simp [heq, DefinitionKind.isType] at ht
    · simp [heq, DefinitionKind.isType] at ht
  obtain ⟨p, hp, r, hr, hcaptures⟩ := Query.exists_captures_of_mem_run hm
  obtain ⟨⟨nodeKind, nameKind⟩, hdeclares, hidentifier, hscope⟩ :=
    l.declares?_of_isType _ hq (by rw [hkind, Option.any_some, htype]) p hp
  obtain ⟨hadmits, n, hn, hadmits', hpair⟩ := Pattern.of_captures_declares? hdeclares hcaptures
  obtain ⟨hrb, hnn⟩ : m.node? "node" = some r ∧ m.node? "name" = some n := by
    rw [Match.node?, Match.node?, hpair]
    exact ⟨rfl, rfl⟩
  obtain rfl := Option.some.inj (hnode.symm.trans hrb)
  refine ⟨hr, hadmits.kind nodeKind rfl ▸ hscope, fun honce => ?_⟩
  have hfirst : src.tree.childByField? b "name" = some n :=
    SyntaxTree.childByField?_eq honce hn (hadmits'.field "name" rfl)
  have hother : kind ≠ .decorator := by
    rintro rfl
    cases htype
  rw [entityName?, if_neg hother, hnn, Option.bind_some] at hname
  rw [className, hfirst, optionalText, Option.map_some, Option.getD_some]
  exact (text_eq_of_declaredName? (hadmits'.kind nameKind rfl ▸ hidentifier) hname).symm

/-- The node of a method is no type, and there is a class-like node around it. -/
theorem of_mem_declarations_method {i : Nat} {d : Definition}
    (hi : (i, d) ∈ src.declarations l broken path) (hd : d.kind = .methodDecl) :
    i < src.tree.nodes.size ∧ src.tree.kind i ∉ l.classKinds ++ l.unscopedKinds ∧
      ∃ a, src.nearestClass? l i = some a ∧ d.parentClass = some (src.className a) := by
  obtain ⟨name, q, kind, m, hq, -, hkind, hm, hnode, hdecl⟩ := mem_declarations.mp hi
  obtain ⟨i', hi', -, -, hinside, hparent, -⟩ := exists_of_declaration? hdecl
  obtain rfl := Option.some.inj (hnode.symm.trans hi')
  have hfunction : name.definitionKind? ∈ [some .functionDecl, some .methodDecl] := by
    rw [hd] at hinside
    rw [hkind]
    rcases src.kindInside_cases kind (src.enclosingClass? l i) i with heq | ⟨rfl, -⟩ | ⟨-, heq⟩
    · obtain rfl : .methodDecl = kind := hinside.trans heq
      simp
    · simp
    · cases hinside.trans heq
  obtain ⟨hnamed, hentity⟩ := Query.isEntity_of_mem_run hm hnode
  have hentity := hentity.resolve_right (l.none_notMem_nodeKinds _ hq)
  refine ⟨SyntaxTree.lt_size_of_named hnamed, fun hscope => ?_, ?_⟩
  · exact l.notMem_nodeKinds_of_function _ hq hfunction _ hscope hentity
  · cases hclass : src.enclosingClass? l i with
    | none =>
      rw [hclass, hd] at hinside
      exact absurd hinside.symm (kindInside_none_ne kind i)
    | some c =>
      obtain ⟨a, ha, rfl⟩ := enclosingClass?_eq_some hclass
      exact ⟨a, ha, hparent.trans hclass⟩

/-! ### The smallest type -/

/-- The range of an entity is strictly larger than the range of each entity below it. -/
def Layered (src : SourceTree) (l : Language) (broken : List BrokenQuery) (path : String) : Prop :=
  ∀ i ∈ src.declaredNodes l broken path, ∀ j ∈ src.declaredNodes l broken path,
    i ∈ src.tree.ancestors j →
      (src.tree.node i).start < (src.tree.node j).start ∨
        (src.tree.node j).stop < (src.tree.node i).stop

/-- The classes, interfaces and enumerations of a file. -/
def typeDefinitions (src : SourceTree) (l : Language) (broken : List BrokenQuery) (path : String) :
    List Definition :=
  (src.definitions l broken path).filter (·.kind.isType)

/-- Each type of a file is declared. -/
theorem exists_mem_declarations_of_mem_typeDefinitions {t : Definition}
    (h : t ∈ src.typeDefinitions l broken path) : ∃ b, (b, t) ∈ src.declarations l broken path := by
  obtain ⟨hmem, htype⟩ := List.mem_filter.mp h
  refine exists_mem_declarations (mem_finds_of_mem_definitions hmem) fun heq => ?_
  simp [heq, DefinitionKind.isType] at htype

/-- For each declared type there is one of its name and range among the types of the file. -/
theorem exists_mem_typeDefinitions {b : Nat} {c : Definition}
    (h : (b, c) ∈ src.declarations l broken path) (hc : c.kind.isType = true) :
    ∃ t ∈ src.typeDefinitions l broken path, t.name = c.name ∧
      t.startByte = (src.tree.node b).start ∧ t.endByte = (src.tree.node b).stop := by
  obtain ⟨t, ht, hkey⟩ := exists_mem_definitions (mem_finds_of_mem_declarations h)
  obtain ⟨hkind, hstart, hstop, hname⟩ :=
    Definition.sameEntity_iff.mp (Definition.key_eq_iff.mp hkey)
  obtain ⟨hstart', hstop'⟩ := range_of_mem_declarations h
  exact ⟨t, List.mem_filter.mpr ⟨ht, by rw [hkind, hc]⟩, hname, hstart.trans hstart',
    hstop.trans hstop'⟩

section Method

variable {i : Nat} {d : Definition} (ht : src.tree.Nested) (hlayered : src.Layered l broken path)
  (hi : (i, d) ∈ src.declarations l broken path) (hd : d.kind = .methodDecl)
  (hne : d.startByte < d.endByte)

include ht hlayered hi hd hne

/-- A type around all of a method is read off an ancestor. -/
theorem mem_ancestors_of_encloses {b : Nat} {t : Definition}
    (hb : (b, t) ∈ src.declarations l broken path) (htype : t.kind.isType = true)
    (hencloses : t.encloses d = true) : b ∈ src.tree.ancestors i := by
  obtain ⟨hsize, hscope, -⟩ := of_mem_declarations_type hb htype
  obtain ⟨hisize, hnone, -⟩ := of_mem_declarations_method hi hd
  obtain ⟨hstart, hstop⟩ := range_of_mem_declarations hi
  obtain ⟨hstart', hstop'⟩ := range_of_mem_declarations hb
  simp only [Definition.encloses, Bool.and_eq_true, decide_eq_true_eq] at hencloses
  rcases ht.comparable_or_apart hsize hisize with rfl | hmem | hmem | hapart
  · exact absurd hscope hnone
  · exact hmem
  · have hstrict := hlayered i (mem_declaredNodes.mpr ⟨d, hi⟩) b
      (mem_declaredNodes.mpr ⟨t, hb⟩) hmem
    omega
  · unfold SyntaxTree.Apart at hapart
    omega

/--
The type that owns a method has the range and the name of the nearest class-like node, if that node
is one of a type, has one name, and no enumeration stands between.
-/
theorem exists_owningClass? {a : Nat} (ha : src.nearestClass? l i = some a)
    (htype : a ∈ src.typeNodes l broken path)
    (honce : (src.tree.childrenByField a "name").length ≤ 1)
    (hbetween : ∀ b ∈ src.tree.ancestors i, src.tree.kind b ∈ l.unscopedKinds →
      a ∉ src.tree.ancestors b) :
    ∃ owner ∈ src.typeDefinitions l broken path,
      owningClass? (src.typeDefinitions l broken path) d = some owner ∧
      owner.name = src.className a ∧ owner.startByte = (src.tree.node a).start ∧
      owner.endByte = (src.tree.node a).stop := by
  obtain ⟨-, near, far, hancestors, hnear⟩ := List.find?_eq_some_iff_append.mp ha
  have hfar : src.tree.ancestors a = far := ht.ancestors_of_append hancestors
  obtain ⟨-, -, a', ha', hparent⟩ := of_mem_declarations_method hi hd
  obtain rfl : a' = a := Option.some.inj (ha'.symm.trans ha)
  obtain ⟨hstart, hstop⟩ := range_of_mem_declarations hi
  -- the type of the nearest node is a candidate
  obtain ⟨c, hc, hctype⟩ := mem_typeNodes.mp htype
  obtain ⟨t, htmem, htname, htstart, htstop⟩ := exists_mem_typeDefinitions hc hctype
  have hcname := (of_mem_declarations_type hc hctype).2.2 honce
  have hhosts : t.Hosts d := by
    have hinside := ht.inside_of_mem_ancestors (a := a') (i := i)
      (hancestors ▸ List.mem_append_right near List.mem_cons_self)
    refine ⟨by rw [hparent, htname, hcname], ?_⟩
    simp only [Definition.encloses, Bool.and_eq_true, decide_eq_true_eq]
    omega
  cases hbest : owningClass? (src.typeDefinitions l broken path) d with
  | none => exact absurd hhosts (owningClass?_eq_none_iff.mp hbest t htmem)
  | some owner =>
    obtain ⟨hmem, ⟨hname, hencloses⟩, hleast⟩ := of_owningClass?_eq_some hbest
    have hspan := hleast t htmem hhosts
    refine ⟨owner, hmem, rfl, Option.some.inj (hname.trans hparent), ?_⟩
    -- and none that owns the method lies inside it
    obtain ⟨b, hb⟩ := exists_mem_declarations_of_mem_typeDefinitions hmem
    have hbtype := (List.mem_filter.mp hmem).2
    obtain ⟨hbstart, hbstop⟩ := range_of_mem_declarations hb
    have haround := mem_ancestors_of_encloses ht hlayered hi hd hne hb hbtype hencloses
    have hscope := (of_mem_declarations_type hb hbtype).2.1
    unfold Definition.span at hspan
    rw [hancestors, List.mem_append, List.mem_cons] at haround
    rcases haround with hmem | rfl | hmem
    · obtain ⟨front, back, rfl⟩ := List.append_of_mem hmem
      have hnone := hnear b hmem
      simp only [Bool.not_eq_true', decide_eq_false_iff_not] at hnone
      have hunscoped := (List.mem_append.mp hscope).resolve_left hnone
      have hback : src.tree.ancestors b = back ++ a' :: far :=
        ht.ancestors_of_append (by rw [hancestors, List.append_assoc, List.cons_append])
      refine absurd ?_ (hbetween b ?_ hunscoped)
      · rw [hback]
        exact List.mem_append_right back List.mem_cons_self
      · rw [hancestors]
        exact List.mem_append_left _ hmem
    · exact ⟨hbstart, hbstop⟩
    · have hstrict := hlayered b (mem_declaredNodes.mpr ⟨owner, hb⟩) a'
        (mem_declaredNodes.mpr ⟨c, hc⟩) (hfar ▸ hmem)
      have hinside := ht.inside_of_mem_ancestors (a := b) (i := a') (hfar ▸ hmem)
      omega

end Method

end SourceTree

end CodeGraph
