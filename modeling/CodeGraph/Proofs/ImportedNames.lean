import CodeGraph.Proofs.Captures
import CodeGraph.Proofs.Extraction

/-!
# Names bound by Python imports

An import statement may bind several names. A plain one has a specification of its own for each
module that it names, and one that imports from a module has a single specification for all names.
Each specification becomes a definition with the range of the statement and the dotted name of the
module, and of the definitions with the same range and name the first one is kept.

So a name gets lost exactly if an earlier specification of the same range and module does not bind
it. No name that is imported from a module is, while a plain import that names one module twice
keeps its first alias only.

## Main definitions

* `Binding`: a name that is bound to a module, or to something in it.
* `SourceTree.Binds`: what the syntax of a statement binds.
* `ImportSpec.Binds`: what a specification binds.
* `SourceTree.Hidden`: the specification kept for a statement and a module does not bind a name.

## Main results

* `SourceTree.binds_iff`: a statement binds what its specifications bind.
* `ParsedFile.names_recorded`: a name is recorded exactly if some statement binds it and does not
  hide it.
-/

namespace CodeGraph

/-- A local name that is bound to a module, or to something that is imported from it. -/
structure Binding where
  moduleName : String
  level : Nat
  imported : Option String
  localName : String
deriving DecidableEq, Repr

/-- The module of a binding with a dot for each level. -/
def Binding.dotted (b : Binding) : String :=
  Text.replicate b.level '.' ++ b.moduleName

/-- One of the names of a specification is bound to the module, or to something in it. -/
def ImportSpec.Binds (spec : ImportSpec) (b : Binding) : Prop :=
  spec.moduleName = b.moduleName ∧ spec.level = b.level ∧
    ∃ n ∈ spec.names, n.localName = some b.localName ∧ n.importedName = b.imported

namespace SourceTree

/-! ### What statements bind -/

variable (src : SourceTree)

/-- An item of a list of imports has a name and binds a name: what stands behind `as`, or itself. -/
inductive ItemBinds (item : Nat) : String → String → Prop
  | plain (h : src.tree.kind item ≠ "aliased_import") :
    ItemBinds item (src.text item) (src.text item)
  | aliased (h : src.tree.kind item = "aliased_import") :
    ItemBinds item (src.optionalText (src.tree.childByField? item "name"))
      (src.optionalText (src.tree.childByField? item "alias"))

/-- The last child of a kind. -/
def lastChild? (i : Nat) (kind : String) : Option Nat :=
  ((src.tree.children i).filter fun c => src.tree.kind c = kind).getLast?

/-- The number of dots and the name of the module that a statement imports from. -/
inductive FromModule (i : Nat) : Nat → String → Prop
  | absolute {m : Nat} (hm : src.tree.childByField? i "module_name" = some m)
    (h : src.tree.kind m ≠ "relative_import") : FromModule i 0 (src.text m)
  | relative {m : Nat} (hm : src.tree.childByField? i "module_name" = some m)
    (h : src.tree.kind m = "relative_import") :
    FromModule i (Text.count '.' (src.optionalText (src.lastChild? m "import_prefix")))
      (src.optionalText (src.lastChild? m "dotted_name"))

/-- A statement binds a name, where all texts are there. -/
inductive Binds (i : Nat) : Binding → Prop
  | plain {item : Nat} {name given : String} (hi : (src.tree.node i).named = true)
    (hkind : src.tree.kind i = "import_statement")
    (hitem : item ∈ src.tree.childrenByField i "name") (h : src.ItemBinds item name given)
    (hname : name ≠ "") (hgiven : given ≠ "") : Binds i ⟨name, 0, none, given⟩
  | within {item level : Nat} {name imported given : String}
    (hi : (src.tree.node i).named = true) (hkind : src.tree.kind i = "import_from_statement")
    (hmodule : src.FromModule i level name)
    (hitem : item ∈ src.tree.childrenByField i "name") (h : src.ItemBinds item imported given)
    (hne : name ≠ "" ∨ level ≠ 0) (himported : imported ≠ "") (hgiven : given ≠ "") :
    Binds i ⟨name, level, some imported, given⟩
  | future {item : Nat} {imported given : String} (hi : (src.tree.node i).named = true)
    (hkind : src.tree.kind i = "future_import_statement")
    (hitem : item ∈ src.tree.childrenByField i "name") (h : src.ItemBinds item imported given)
    (himported : imported ≠ "") (hgiven : given ≠ "") :
    Binds i ⟨"__future__", 0, some imported, given⟩

variable {src} {i : Nat}

theorem itemBinds_iff {item : Nat} {name given : String} :
    src.ItemBinds item name given ↔ src.importedAs item = (name, given) := by
  rw [importedAs]
  constructor
  · rintro (h | h)
    · rw [if_neg h]
    · rw [if_pos h]
      rfl
  · split
    · next h =>
      intro hpair
      obtain ⟨rfl, rfl⟩ := Prod.mk.inj hpair
      exact .aliased h
    · next h =>
      intro hpair
      obtain ⟨rfl, rfl⟩ := Prod.mk.inj hpair
      exact .plain h

instance (src : SourceTree) (item : Nat) (name given : String) :
    Decidable (src.ItemBinds item name given) :=
  decidable_of_iff _ itemBinds_iff.symm

/-- An item binds one name. -/
theorem ItemBinds.unique {item : Nat} {name name' given given' : String}
    (h : src.ItemBinds item name given) (h' : src.ItemBinds item name' given') :
    name = name' ∧ given = given' :=
  Prod.mk.inj ((itemBinds_iff.mp h).symm.trans (itemBinds_iff.mp h'))

/-- The last prefix and the last name decide. -/
theorem foldl_eq_lastChild (cs : List Nat) :
    cs.foldl (fun (level, name) c =>
        if src.tree.kind c = "import_prefix" then (Text.count '.' (src.text c), name)
        else if src.tree.kind c = "dotted_name" then (level, src.text c)
        else (level, name)) (0, "") =
      (Text.count '.' (src.optionalText
          (cs.filter fun c => src.tree.kind c = "import_prefix").getLast?),
        src.optionalText (cs.filter fun c => src.tree.kind c = "dotted_name").getLast?) := by
  induction cs using List.reverseRecOn with
  | nil => rfl
  | append_singleton cs c ih =>
    rw [List.foldl_concat, ih, List.filter_append, List.filter_append]
    by_cases hdots : src.tree.kind c = "import_prefix"
    · simp [hdots, optionalText]
    · by_cases hname : src.tree.kind c = "dotted_name"
      · simp [hname, optionalText]
      · simp [hdots, hname]

/-- Without a module there is no name and no level. -/
theorem fromModule_iff {level : Nat} {name : String} (hne : name ≠ "" ∨ level ≠ 0) :
    src.FromModule i level name ↔ src.fromModule i = (level, name) := by
  rw [fromModule]
  cases hm : src.tree.childByField? i "module_name" with
  | none =>
    refine iff_of_false ?_ ?_
    · rintro (⟨hm', -⟩ | ⟨hm', -⟩) <;> cases hm.symm.trans hm'
    · intro hpair
      obtain ⟨rfl, rfl⟩ := Prod.mk.inj hpair
      simp at hne
  | some m =>
    dsimp only
    rw [foldl_eq_lastChild]
    constructor
    · rintro (⟨hm', h⟩ | ⟨hm', h⟩) <;> obtain rfl := Option.some.inj (hm.symm.trans hm')
      · rw [if_neg h]
      · rw [if_pos h]
        rfl
    · split
      · next h =>
        intro hpair
        obtain ⟨rfl, rfl⟩ := Prod.mk.inj hpair
        exact .relative hm h
      · next h =>
        intro hpair
        obtain ⟨rfl, rfl⟩ := Prod.mk.inj hpair
        exact .absolute hm h

/-- A plain import has a specification for each item with a name. -/
theorem mem_moduleImports {spec : ImportSpec} : spec ∈ src.moduleImports i ↔
    ∃ item ∈ src.tree.childrenByField i "name", ∃ name given, src.ItemBinds item name given ∧
      name ≠ "" ∧ spec = ⟨name, 0, [⟨some given, none, .namespaced⟩], false, src.startLine i⟩ := by
  simp only [moduleImports, List.mem_filterMap, Option.ite_none_left_eq_some, Option.some.injEq]
  refine exists_congr fun item => and_congr_right fun _ => ?_
  constructor
  · rintro ⟨hname, rfl⟩
    exact ⟨_, _, itemBinds_iff.mpr rfl, hname, rfl⟩
  · rintro ⟨name, given, hitem, hname, rfl⟩
    rw [itemBinds_iff.mp hitem]
    exact ⟨hname, rfl⟩

/-- An import from a module has one specification at most. -/
theorem length_fromImports_le : (src.fromImports i).length ≤ 1 := by
  unfold fromImports
  dsimp only
  split
  · exact Nat.zero_le 1
  · exact Nat.le_refl 1

/-- An import from a module binds the items with a name, if the module has a name or a level. -/
theorem exists_mem_fromImports_iff {b : Binding} : (∃ spec ∈ src.fromImports i, spec.Binds b) ↔
    src.FromModule i b.level b.moduleName ∧ (b.moduleName ≠ "" ∨ b.level ≠ 0) ∧
      ∃ item ∈ src.tree.childrenByField i "name", ∃ imported,
        src.ItemBinds item imported b.localName ∧ imported ≠ "" ∧ b.imported = some imported := by
  rcases hmodule : src.fromModule i with ⟨level, name⟩
  simp only [fromImports, hmodule]
  constructor
  · rintro ⟨spec, hspec, hname, hlevel, n, hn, hlocal, himported⟩
    split at hspec
    · cases hspec
    · next hne =>
      obtain rfl := List.mem_singleton.mp hspec
      dsimp only at hname hlevel hn
      obtain rfl := hname
      obtain rfl := Int.ofNat_inj.mp hlevel
      have hne' : b.moduleName ≠ "" ∨ b.level ≠ 0 := by
        simpa [Classical.or_iff_not_imp_left] using hne
      refine ⟨(fromModule_iff hne').mpr hmodule, hne', ?_⟩
      rcases List.mem_append.mp hn with hn | hn
      · obtain ⟨item, hitem, hn⟩ := List.mem_filterMap.mp hn
        obtain ⟨himp, hn⟩ := Option.ite_none_left_eq_some.mp hn
        obtain rfl := Option.some.inj hn
        refine ⟨item, hitem, (src.importedAs item).1, ?_, himp, himported.symm⟩
        rw [itemBinds_iff, ← Option.some.inj hlocal]
      · split at hn
        · obtain rfl := List.mem_singleton.mp hn
          cases hlocal
        · cases hn
  · rintro ⟨hfrom, hne, item, hitem, imported, hbinds, himp, himported⟩
    obtain ⟨rfl, rfl⟩ := Prod.mk.inj (hmodule.symm.trans ((fromModule_iff hne).mp hfrom))
    have hne' : ¬(b.moduleName = "" && b.level = 0 : Bool) = true := by
      simpa [Classical.or_iff_not_imp_left] using hne
    rw [if_neg hne']
    refine ⟨_, List.mem_singleton_self _, rfl, rfl, ⟨some b.localName, some imported, .named⟩,
      List.mem_append_left _ ?_, rfl, himported.symm⟩
    refine List.mem_filterMap.mpr ⟨item, hitem, ?_⟩
    rw [itemBinds_iff.mp hbinds]
    exact if_neg himp

/-- Other statements bind what their specifications bind, where the local name is not empty. -/
theorem binds_iff {b : Binding} :
    src.Binds i b ∧ src.tree.kind i ≠ "future_import_statement" ↔
      (src.tree.node i).named = true ∧ b.localName ≠ "" ∧
        ∃ spec ∈ src.pythonImports i, spec.Binds b := by
  rw [pythonImports]
  constructor
  · rintro ⟨⟨hi, hkind, hitem, h, hname, hgiven⟩ |
      ⟨hi, hkind, hmodule, hitem, h, hne, himported, hgiven⟩ | ⟨-, hkind, -⟩, hother⟩
    · rw [if_pos hkind]
      refine ⟨hi, hgiven, _, mem_moduleImports.mpr ⟨_, hitem, _, _, h, hname, rfl⟩, rfl, rfl, _,
        List.mem_singleton_self _, rfl, rfl⟩
    · rw [if_neg (by rw [hkind]; decide), if_pos hkind]
      exact ⟨hi, hgiven, exists_mem_fromImports_iff.mpr
        ⟨hmodule, hne, _, hitem, _, h, himported, rfl⟩⟩
    · exact absurd hkind hother
  · rintro ⟨hi, hgiven, h⟩
    obtain ⟨moduleName, level, imported, localName⟩ := b
    split at h
    · next hkind =>
      obtain ⟨spec, hspec, hname, hlevel, n, hn, hlocal, himported⟩ := h
      obtain ⟨item, hitem, name, given, hbinds, hne, rfl⟩ := mem_moduleImports.mp hspec
      obtain rfl := List.mem_singleton.mp hn
      obtain rfl := Option.some.inj hlocal
      obtain rfl : imported = none := himported.symm
      obtain rfl : level = 0 := (Int.ofNat_inj.mp hlevel).symm
      obtain rfl := hname
      exact ⟨.plain hi hkind hitem hbinds hne hgiven, by rw [hkind]; decide⟩
    · split at h
      · next hkind =>
        obtain ⟨hmodule, hne, item, hitem, imported, hbinds, himp, rfl⟩ :=
          exists_mem_fromImports_iff.mp h
        exact ⟨.within hi hkind hmodule hitem hbinds hne himp hgiven, by rw [hkind]; decide⟩
      · obtain ⟨spec, hspec, -⟩ := h
        cases hspec

/-! ### What is recorded -/

/-- The import statements that the query matches, in the order of the matches. -/
def importStatements (src : SourceTree) : List Nat :=
  (((Language.query? .python .imports).map (·.run src)).getD []).filterMap (·.node? "node")

/-- The specifications of all import statements, each with its statement. -/
def importEntries (src : SourceTree) : List (Nat × ImportSpec) :=
  src.importStatements.flatMap fun i => (src.pythonImports i).map fun spec => (i, spec)

/-- An import of the range of a statement and of a dotted module. -/
def isImportAt (src : SourceTree) (i : Nat) (dotted : String) (e : Nat × ImportSpec) : Bool :=
  (src.tree.node e.1).start = (src.tree.node i).start &&
    (src.tree.node e.1).stop = (src.tree.node i).stop && dottedModule e.2 = dotted

/-- The specification that is kept for a statement and a module does not bind a name. -/
def Hidden (src : SourceTree) (i : Nat) (b : Binding) : Prop :=
  ∃ e, src.importEntries.find? (src.isImportAt i b.dotted) = some e ∧ ¬e.2.Binds b

/-- The statements that are matched are the named nodes of the two kinds. -/
theorem mem_importStatements : i ∈ src.importStatements ↔ (src.tree.node i).named = true ∧
    (src.tree.kind i = "import_statement" ∨ src.tree.kind i = "import_from_statement") := by
  obtain ⟨q, hq, hpatterns, hcondition⟩ : ∃ q, Language.query? .python .imports = some q ∧
      q.patterns = [whole "import_statement", whole "import_from_statement"] ∧
      q.condition = none := ⟨_, rfl, rfl, rfl⟩
  rw [importStatements, hq, Option.map_some, Option.getD_some, List.mem_filterMap]
  constructor
  · rintro ⟨m, hm, hnode⟩
    obtain ⟨p, hp, j, -, hcaptures⟩ := Query.exists_captures_of_mem_run hm
    rw [hpatterns] at hp
    rcases List.mem_pair.mp hp with rfl | rfl <;>
      obtain ⟨hadmits, hcaptures⟩ := Pattern.captures_leaf_iff.mp hcaptures <;>
      rw [Match.node?, ← hcaptures] at hnode <;>
      obtain rfl := Option.some.inj hnode
    · exact ⟨hadmits.named, .inl (hadmits.kind _ rfl)⟩
    · exact ⟨hadmits.named, .inr (hadmits.kind _ rfl)⟩
  · rintro ⟨hnamed, hkind⟩
    have hmem : whole (src.tree.kind i) ∈ q.patterns := by
      rw [hpatterns, List.mem_pair]
      exact hkind.imp (congrArg whole) (congrArg whole)
    have hcaptures : (whole (src.tree.kind i)).Captures src.tree i [("node", i)] :=
      Pattern.captures_leaf_iff.mpr ⟨SyntaxTree.admits_kind_iff.mpr ⟨hnamed, rfl⟩, rfl⟩
    obtain ⟨m, hm, hnode⟩ := Query.exists_mem_run hcondition hmem hcaptures
    exact ⟨m, hm, by rw [Match.node?, hnode]; rfl⟩

/-- The entries are the specifications of all named statements. -/
theorem mem_importEntries {spec : ImportSpec} : (i, spec) ∈ src.importEntries ↔
    (src.tree.node i).named = true ∧ spec ∈ src.pythonImports i := by
  simp only [importEntries, List.mem_flatMap, List.mem_map, Prod.mk.injEq, mem_importStatements]
  constructor
  · rintro ⟨i, ⟨hnamed, -⟩, spec, hspec, rfl, rfl⟩
    exact ⟨hnamed, hspec⟩
  · rintro ⟨hnamed, hspec⟩
    refine ⟨i, ⟨hnamed, ?_⟩, spec, hspec, rfl, rfl⟩
    unfold pythonImports at hspec
    split at hspec
    · next hkind => exact .inl hkind
    · split at hspec
      · next hkind => exact .inr hkind
      · cases hspec

section Kept

variable {broken : List BrokenQuery} {path : String}
  (hq : Language.python.compiles broken .imports = true)

include hq

omit hq in
/-- Queries that declare other entities find no imports. -/
theorem filter_definitionsOf_eq_nil {l : Language} {name : QueryName} {q : Query}
    (h : name = .calls ∨ ∃ kind, name.definitionKind? = some kind ∧ kind ≠ .importDecl) :
    (src.definitionsOf l path name q).filter (·.kind = .importDecl) = [] := by
  refine List.filter_eq_nil_iff.mpr fun d hd => ?_
  rw [decide_eq_true_eq]
  cases definedBy_of_mem_definitionsOf hd with
  | declared hkind _ hm =>
    rcases h with rfl | ⟨kind, hkind', hne⟩
    · cases hkind
    · obtain rfl := Option.some.inj (hkind.symm.trans hkind')
      exact kind_ne_of_declaration? hne hm
  | imported hname hkind =>
    obtain ⟨kind, hkind', -⟩ := h.resolve_left hname
    cases hkind.symm.trans hkind'

/-- The imports that are found are the entries. -/
theorem filter_finds_eq : (src.finds .python broken path).filter (·.kind = .importDecl) =
    src.importEntries.map fun e => src.importDefinition .python path e.1 e.2 := by
  -- of the queries only one finds imports
  obtain ⟨before, q, after, hqueries, hquery, hbefore, hafter⟩ : ∃ before q after,
      Language.python.queries = before ++ (.imports, q) :: after ∧
      Language.python.query? .imports = some q ∧
      (∀ x ∈ before, x.1 = .calls ∨ ∃ kind, x.1.definitionKind? = some kind ∧
        kind ≠ .importDecl) ∧
      ∀ x ∈ after, x.1 = .calls ∨ ∃ kind, x.1.definitionKind? = some kind ∧
        kind ≠ .importDecl := by
    refine ⟨pythonQueries.take 4, _, pythonQueries.drop 5, rfl, rfl, ?_, ?_⟩ <;>
      simp [pythonQueries, QueryName.definitionKind?]
  have hnone : ∀ (xs : List (QueryName × Query)) (compiles : QueryName × Query → Bool),
      (∀ x ∈ xs, x.1 = .calls ∨ ∃ kind, x.1.definitionKind? = some kind ∧ kind ≠ .importDecl) →
      (xs.filter compiles).flatMap (fun x =>
        (src.definitionsOf .python path x.1 x.2).filter (·.kind = .importDecl)) = [] := by
    intro xs compiles hxs
    refine List.flatMap_eq_nil_iff.mpr fun x hx => ?_
    exact filter_definitionsOf_eq_nil (hxs x (List.mem_filter.mp hx).1)
  have himports : src.definitionsOf .python path .imports q =
      src.importEntries.map fun e => src.importDefinition .python path e.1 e.2 := by
    rw [importEntries, importStatements, hquery, Option.map_some, Option.getD_some,
      List.map_flatMap, List.filterMap_eq_flatMap_toList, List.flatMap_assoc]
    refine List.flatMap_congr fun m _ => ?_
    rw [importDefinitions]
    cases m.node? "node" with
    | none => rfl
    | some i => simp [imports, Function.comp_def]
  rw [finds, List.filter_flatMap, hqueries, List.filter_append, List.flatMap_append,
    hnone before _ hbefore, List.filter_cons_of_pos (by exact hq), List.flatMap_cons,
    hnone after _ hafter, List.nil_append, List.append_nil]
  dsimp only
  rw [himports]
  refine List.filter_eq_self.mpr fun d hd => ?_
  obtain ⟨e, -, rfl⟩ := List.mem_map.mp hd
  exact decide_eq_true rfl

/-- An import is kept exactly if it is the first one of its range and module. -/
theorem importDefinition_mem_definitions_iff {spec : ImportSpec} :
    src.importDefinition .python path i spec ∈ src.definitions .python broken path ↔
      ∃ e, src.importEntries.find? (src.isImportAt i (dottedModule spec)) = some e ∧
        src.importDefinition .python path e.1 e.2 = src.importDefinition .python path i spec := by
  let first : Definition → Bool := fun d =>
    d.key = (src.importDefinition .python path i spec).key
  have hkind : ∀ d : Definition,
      decide (decide (d.kind = .importDecl) = true ∧ first d = true) = first d := by
    intro d
    rw [Bool.eq_iff_iff, decide_eq_true_eq, and_iff_right_iff_imp, decide_eq_true_eq,
      decide_eq_true_eq]
    exact fun hkey => (Definition.sameEntity_iff.mp (Definition.key_eq_iff.mp hkey)).1
  have hentry : ∀ e : Nat × ImportSpec,
      first (src.importDefinition .python path e.1 e.2) =
        src.isImportAt i (dottedModule spec) e := by
    intro e
    rw [Bool.eq_iff_iff, decide_eq_true_eq, Definition.key_eq_iff, Definition.sameEntity_iff]
    simp only [importDefinition, Definition.identified, isImportAt, Int.ofNat_inj, true_and,
      Bool.and_eq_true, decide_eq_true_eq, and_assoc]
  have hfind : (src.finds .python broken path).find? first =
      (src.importEntries.find? (src.isImportAt i (dottedModule spec))).map
        fun e => src.importDefinition .python path e.1 e.2 := by
    calc
      _ = ((src.finds .python broken path).filter (·.kind = .importDecl)).find? first := by
        rw [List.find?_filter, funext hkind]
      _ = (src.importEntries.find?
            (first ∘ fun e => src.importDefinition .python path e.1 e.2)).map
          fun e => src.importDefinition .python path e.1 e.2 := by
        rw [filter_finds_eq hq, List.find?_map]
      _ = _ := by rw [← funext hentry]; rfl
  rw [mem_definitions_iff, hfind, Option.map_eq_some_iff]

end Kept

/-- A specification has the dotted module of what it binds. -/
theorem dottedModule_eq {spec : ImportSpec} {b : Binding} (h : spec.Binds b) :
    dottedModule spec = b.dotted := by
  obtain ⟨hname, hlevel, -⟩ := h
  rw [dottedModule, hlevel, hname, Int.toNat_natCast, Binding.dotted]

section Recorded

variable {broken : List BrokenQuery} {path : String} {b : Binding}
  (hq : Language.python.compiles broken .imports = true)

include hq

/-- A name that is bound and not hidden is recorded in an import of the range of the statement. -/
theorem exists_mem_definitions_of_binds (hb : src.Binds i b)
    (hother : src.tree.kind i ≠ "future_import_statement") (hnot : ¬src.Hidden i b) :
    ∃ d ∈ src.definitions .python broken path, d.kind = .importDecl ∧
      d.startByte = (src.tree.node i).start ∧ d.endByte = (src.tree.node i).stop ∧
      ∃ spec, d.importSpec = some spec ∧ spec.Binds b := by
  obtain ⟨hnamed, -, spec, hspec, hbinds⟩ := binds_iff.mp ⟨hb, hother⟩
  obtain ⟨e, he⟩ : ∃ e, src.importEntries.find? (src.isImportAt i b.dotted) = some e := by
    refine Option.isSome_iff_exists.mp (List.find?_isSome.mpr
      ⟨(i, spec), mem_importEntries.mpr ⟨hnamed, hspec⟩, ?_⟩)
    simp [isImportAt, dottedModule_eq hbinds]
  have hat := List.find?_some he
  simp only [isImportAt, Bool.and_eq_true, decide_eq_true_eq] at hat
  obtain ⟨⟨hstart, hstop⟩, hdotted⟩ := hat
  have hbound : e.2.Binds b := by
    by_contra hne
    exact hnot ⟨e, he, hne⟩
  have hmem : src.importDefinition .python path e.1 e.2 ∈ src.definitions .python broken path := by
    refine (importDefinition_mem_definitions_iff hq).mpr ⟨e, ?_, rfl⟩
    rw [← he]
    refine congrArg (List.find? · src.importEntries) (funext fun x => ?_)
    rw [isImportAt, isImportAt, hstart, hstop, hdotted]
  exact ⟨_, hmem, rfl, congrArg Nat.cast hstart, congrArg Nat.cast hstop, e.2, rfl, hbound⟩

/-- A recorded name is bound by a statement that does not hide it. -/
theorem exists_binds_of_mem_definitions {d : Definition}
    (hd : d ∈ src.definitions .python broken path) (hkind : d.kind = .importDecl)
    {spec : ImportSpec} (hspec : d.importSpec = some spec) (hbinds : spec.Binds b)
    (hb : b.localName ≠ "") : ∃ i, src.Binds i b ∧
      src.tree.kind i ≠ "future_import_statement" ∧ ¬src.Hidden i b := by
  have hfound : d ∈ (src.finds .python broken path).filter (·.kind = .importDecl) :=
    List.mem_filter.mpr ⟨mem_finds_of_mem_definitions hd, decide_eq_true hkind⟩
  rw [filter_finds_eq hq] at hfound
  obtain ⟨⟨i, spec'⟩, he, rfl⟩ := List.mem_map.mp hfound
  obtain rfl : spec' = spec := Option.some.inj hspec
  obtain ⟨hnamed, hmem⟩ := mem_importEntries.mp he
  obtain ⟨hbound, hother⟩ := binds_iff.mpr ⟨hnamed, hb, spec', hmem, hbinds⟩
  refine ⟨i, hbound, hother, ?_⟩
  rintro ⟨e, hfirst, hnot⟩
  obtain ⟨e', hfirst', heq⟩ := (importDefinition_mem_definitions_iff hq).mp hd
  rw [dottedModule_eq hbinds, hfirst] at hfirst'
  obtain rfl := Option.some.inj hfirst'
  have hspecs : some e.2 = some spec' := congrArg Definition.importSpec heq
  exact hnot (Option.some.inj hspecs ▸ hbinds)

end Recorded

/-! ### Statements of a range of their own -/

/-- No other import statement has the range of this one. -/
def StandsAlone (src : SourceTree) (i : Nat) : Prop :=
  ∀ j ∈ src.importStatements, (src.tree.node j).start = (src.tree.node i).start →
    (src.tree.node j).stop = (src.tree.node i).stop → j = i

instance (src : SourceTree) (i : Nat) : Decidable (src.StandsAlone i) :=
  inferInstanceAs (Decidable (∀ j ∈ src.importStatements, _ → _ → _))

/-- What is looked up for one item of a list only is what is found there. -/
theorem findSome?_eq_of_mem {α β : Type} {f : α → Option β} {a : α} {as : List α} (ha : a ∈ as)
    (h : ∀ c ∈ as, c ≠ a → f c = none) : as.findSome? f = f a := by
  induction as with
  | nil => cases ha
  | cons c as ih =>
    have hrest : ∀ d ∈ as, d ≠ a → f d = none := fun d hd => h d (List.mem_cons_of_mem c hd)
    rw [List.findSome?_cons]
    by_cases hca : c = a
    · subst hca
      cases hc : f c with
      | some b => rfl
      | none =>
        refine List.findSome?_eq_none_iff.mpr fun d hd => ?_
        by_cases hdc : d = c
        · rw [hdc, hc]
        · exact hrest d hd hdc
    · rw [h c List.mem_cons_self hca]
      exact ih ((List.mem_cons.mp ha).resolve_left (Ne.symm hca)) hrest

/-- A statement alone in its range hides a name by a specification of its own. -/
theorem hidden_iff (halone : src.StandsAlone i) (hi : i ∈ src.importStatements) {b : Binding} :
    src.Hidden i b ↔ ∃ spec,
      (src.pythonImports i).find? (fun spec => dottedModule spec = b.dotted) = some spec ∧
        ¬spec.Binds b := by
  have hfind : src.importEntries.find? (src.isImportAt i b.dotted) =
      ((src.pythonImports i).find? fun spec => dottedModule spec = b.dotted).map
        fun spec => (i, spec) := by
    rw [importEntries, List.find?_flatMap, findSome?_eq_of_mem hi, List.find?_map]
    · simp [Function.comp_def, isImportAt]
    · intro j hj hne
      refine List.find?_eq_none.mpr fun e he hat => ?_
      obtain ⟨spec, -, rfl⟩ := List.mem_map.mp he
      simp only [isImportAt, Bool.and_eq_true, decide_eq_true_eq] at hat
      exact hne (halone j hj hat.1.1 hat.1.2)
  simp only [Hidden, hfind, Option.map_eq_some_iff]
  constructor
  · rintro ⟨_, ⟨spec, hspec, rfl⟩, hnot⟩
    exact ⟨spec, hspec, hnot⟩
  · rintro ⟨spec, hspec, hnot⟩
    exact ⟨_, ⟨spec, hspec, rfl⟩, hnot⟩

/-- No name that is imported from a module is hidden by its own statement. -/
theorem not_hidden_of_from (halone : src.StandsAlone i) {b : Binding} (hb : src.Binds i b)
    (hkind : src.tree.kind i = "import_from_statement") : ¬src.Hidden i b := by
  obtain ⟨hnamed, -, spec, hspec, hbinds⟩ := binds_iff.mp ⟨hb, by rw [hkind]; decide⟩
  rw [hidden_iff halone (mem_importStatements.mpr ⟨hnamed, .inr hkind⟩)]
  rintro ⟨first, hfirst, hnot⟩
  have hmem := List.mem_of_find?_eq_some hfirst
  rw [pythonImports, if_neg (by rw [hkind]; decide), if_pos hkind] at hspec hmem
  obtain ⟨only, honly⟩ := List.length_eq_one_iff.mp
    (Nat.le_antisymm length_fromImports_le (List.length_pos_of_mem hspec))
  rw [honly, List.mem_singleton] at hspec hmem
  exact hnot (hmem.trans hspec.symm ▸ hbinds)

/-- The first specification of a plain import for a module is that of the first item for it. -/
theorem find?_moduleImports {name : String} (hname : name ≠ "") :
    (src.moduleImports i).find? (fun spec => dottedModule spec = name) =
      ((src.tree.childrenByField i "name").find? fun item => (src.importedAs item).1 = name).map
        fun item => ⟨name, 0, [⟨some (src.importedAs item).2, none, .namespaced⟩], false,
          src.startLine i⟩ := by
  have hdotted : ∀ spec : ImportSpec, spec.level = 0 → dottedModule spec = spec.moduleName := by
    intro spec hlevel
    rw [dottedModule, hlevel]
    exact String.empty_append
  rw [moduleImports]
  induction src.tree.childrenByField i "name" with
  | nil => rfl
  | cons item items ih =>
    rw [List.filterMap_cons, List.find?_cons]
    by_cases hitem : (src.importedAs item).1 = name
    · simp only [hitem, if_neg hname, List.find?_cons, hdotted, decide_true, Option.map_some]
    · rw [decide_eq_false hitem, ← ih]
      by_cases hempty : (src.importedAs item).1 = ""
      · simp only [if_pos hempty]
      · simp only [if_neg hempty, List.find?_cons, hdotted, hitem, decide_false]

/-- A plain import keeps what its first item of a module binds, and hides the other names of it. -/
theorem hidden_iff_of_plain (halone : src.StandsAlone i) {b : Binding} (hb : src.Binds i b)
    (hkind : src.tree.kind i = "import_statement") :
    src.Hidden i b ↔ ∃ near item far given,
      src.tree.childrenByField i "name" = near ++ item :: far ∧
      (∀ x ∈ near, ∀ other, ¬src.ItemBinds x b.moduleName other) ∧
      src.ItemBinds item b.moduleName given ∧ given ≠ b.localName := by
  obtain ⟨hnamed, -⟩ := binds_iff.mp ⟨hb, by rw [hkind]; decide⟩
  rw [hidden_iff halone (mem_importStatements.mpr ⟨hnamed, .inl hkind⟩), pythonImports,
    if_pos hkind]
  rcases hb with @⟨_, name, bound, -, -, -, -, hname, -⟩ | ⟨-, hkind', -⟩ | ⟨-, hkind', -⟩
  · have hdotted : Binding.dotted ⟨name, 0, none, bound⟩ = name := String.empty_append
    rw [hdotted, find?_moduleImports hname]
    simp only [Option.map_eq_some_iff, List.find?_eq_some_iff_append, itemBinds_iff]
    constructor
    · rintro ⟨_, ⟨item, ⟨hitem, near, far, hsplit, hnear⟩, rfl⟩, hnot⟩
      rw [decide_eq_true_eq] at hitem
      refine ⟨near, item, far, (src.importedAs item).2, hsplit, fun x hx other hother => ?_,
        Prod.ext hitem rfl, ?_⟩
      · have hne := hnear x hx
        rw [hother] at hne
        simp at hne
      · rintro rfl
        exact hnot ⟨rfl, rfl, _, List.mem_singleton_self _, rfl, rfl⟩
    · rintro ⟨near, item, far, given, hsplit, hnear, hitem, hne⟩
      refine ⟨_, ⟨item, ⟨decide_eq_true (congrArg Prod.fst hitem), near, far, hsplit, ?_⟩, rfl⟩, ?_⟩
      · intro x hx
        have hother := hnear x hx (src.importedAs x).2
        rw [Bool.not_eq_true', decide_eq_false_iff_not]
        exact fun heq => hother (Prod.ext heq rfl)
      · rintro ⟨-, -, n, hn, hlocal, -⟩
        obtain rfl := List.mem_singleton.mp hn
        rw [hitem] at hlocal
        exact hne (Option.some.inj hlocal)
  all_goals
    rw [hkind] at hkind'
    exact absurd hkind' (by decide)

end SourceTree

/--
If the query for imports compiles, a name is recorded in some import of a Python file exactly if
some statement binds it that is no `__future__` import and does not hide it; the import then has the
range of the statement. A statement that no other one shares its range with hides no name that it
imports from a module. A plain import hides the names that it gives to a module again, after the
first item for that module.
-/
theorem ParsedFile.names_recorded (broken : List BrokenQuery) (path content : String)
    (tree : SyntaxTree) (hq : Language.python.compiles broken .imports = true) :
    let src : SourceTree := ⟨tree, content.toUTF8⟩
    let f := extract .python broken path content tree
    (∀ b : Binding, b.localName ≠ "" →
      ((∃ d ∈ f.definitions, d.kind = .importDecl ∧
          ∃ spec, d.importSpec = some spec ∧ spec.Binds b) ↔
        ∃ i, src.Binds i b ∧ tree.kind i ≠ "future_import_statement" ∧ ¬src.Hidden i b)) ∧
    ∀ i b, src.Binds i b → tree.kind i ≠ "future_import_statement" →
      (¬src.Hidden i b → ∃ d ∈ f.definitions, d.kind = .importDecl ∧
        d.startByte = (tree.node i).start ∧ d.endByte = (tree.node i).stop ∧
        ∃ spec, d.importSpec = some spec ∧ spec.Binds b) ∧
      (src.StandsAlone i → (src.Hidden i b ↔ tree.kind i = "import_statement" ∧
        ∃ near item far given, tree.childrenByField i "name" = near ++ item :: far ∧
          (∀ x ∈ near, ∀ other, ¬src.ItemBinds x b.moduleName other) ∧
          src.ItemBinds item b.moduleName given ∧ given ≠ b.localName)) := by
  intro src f
  refine ⟨fun b hb => ⟨?_, ?_⟩, fun i b hbinds hother => ⟨fun hnot => ?_, fun halone => ?_⟩⟩
  · rintro ⟨d, hd, hkind, spec, hspec, hbinds⟩
    exact SourceTree.exists_binds_of_mem_definitions hq hd hkind hspec hbinds hb
  · rintro ⟨i, hbinds, hother, hnot⟩
    obtain ⟨d, hd, hkind, -, -, hspec⟩ :=
      SourceTree.exists_mem_definitions_of_binds hq hbinds hother hnot
    exact ⟨d, hd, hkind, hspec⟩
  · exact SourceTree.exists_mem_definitions_of_binds hq hbinds hother hnot
  · by_cases hkind : tree.kind i = "import_statement"
    · rw [and_iff_right hkind]
      exact SourceTree.hidden_iff_of_plain halone hbinds hkind
    · have hfrom : tree.kind i = "import_from_statement" := by
        rcases hbinds with ⟨-, h, -⟩ | ⟨-, h, -⟩ | ⟨-, h, -⟩
        · exact absurd h hkind
        · exact h
        · exact absurd h hother
      exact iff_of_false (SourceTree.not_hidden_of_from halone hbinds hfrom) fun h => hkind h.1

/-! ### A module imported twice -/

namespace TwoAliases

/-- One module under two names. -/
def source : String :=
  "import a as x, a as y"

/-- Its syntax tree. -/
def tree : SyntaxTree := .ofRows
  [⟨"module", true, none, 0, 21, none, []⟩,
   ⟨"import_statement", true, none, 0, 21, some 0, []⟩,
   ⟨"import", false, none, 0, 6, some 1, []⟩,
   ⟨"aliased_import", true, some "name", 7, 13, some 1, []⟩,
   ⟨"dotted_name", true, some "name", 7, 8, some 3, []⟩,
   ⟨"identifier", true, none, 7, 8, some 4, []⟩,
   ⟨"as", false, none, 9, 11, some 3, []⟩,
   ⟨"identifier", true, some "alias", 12, 13, some 3, []⟩,
   ⟨",", false, none, 13, 14, some 1, []⟩,
   ⟨"aliased_import", true, some "name", 15, 21, some 1, []⟩,
   ⟨"dotted_name", true, some "name", 15, 16, some 9, []⟩,
   ⟨"identifier", true, none, 15, 16, some 10, []⟩,
   ⟨"as", false, none, 17, 19, some 9, []⟩,
   ⟨"identifier", true, some "alias", 20, 21, some 9, []⟩] false

/-- The tree with its text. -/
def src : SourceTree :=
  ⟨tree, source.toUTF8⟩

/-- The statement has two items for one module. -/
theorem facts :
    ((tree.node 1).named = true ∧ (tree.node 1).start = 0 ∧ (tree.node 1).stop = 21) ∧
    tree.kind 1 = "import_statement" ∧ tree.childrenByField 1 "name" = [3, 9] ∧
    src.ItemBinds 3 "a" "x" ∧ src.ItemBinds 9 "a" "y" := by
  decide

/-- The statement is alone in its range, and the file has one import. -/
theorem run_facts :
    src.StandsAlone 1 ∧
    (ParsedFile.extract .python [] "a.py" source tree).definitions.map Definition.importSpec =
      [some ⟨"a", 0, [⟨some "x", none, .namespaced⟩], false, 1⟩] := by
  decide +kernel

theorem binds : src.Binds 1 ⟨"a", 0, none, "x"⟩ ∧ src.Binds 1 ⟨"a", 0, none, "y"⟩ := by
  obtain ⟨⟨hnamed, -⟩, hkind, hitems, hx, hy⟩ := facts
  have hitems : src.tree.childrenByField 1 "name" = [3, 9] := hitems
  constructor
  · exact .plain hnamed hkind (by simp [hitems]) hx (by decide) (by decide)
  · exact .plain hnamed hkind (by simp [hitems]) hy (by decide) (by decide)

end TwoAliases

/-- Of two names that a module is imported under the first one is recorded and hides the other. -/
theorem ParsedFile.names_recorded_first :
    let f := extract .python [] "a.py" TwoAliases.source TwoAliases.tree
    (∃ d ∈ f.definitions, d.kind = .importDecl ∧ d.startByte = 0 ∧ d.endByte = 21 ∧
      ∃ spec, d.importSpec = some spec ∧ spec.Binds ⟨"a", 0, none, "x"⟩) ∧
      TwoAliases.src.Hidden 1 ⟨"a", 0, none, "y"⟩ := by
  intro f
  obtain ⟨⟨-, hzero, hend⟩, hkind, hitems, hx, -⟩ := TwoAliases.facts
  have halone := TwoAliases.run_facts.1
  have hother : TwoAliases.tree.kind 1 ≠ "future_import_statement" := by
    rw [hkind]
    decide
  obtain ⟨-, hstatement⟩ :=
    names_recorded [] "a.py" TwoAliases.source TwoAliases.tree (by decide)
  obtain ⟨hfirst, hidden⟩ := hstatement 1 _ TwoAliases.binds.1 hother
  obtain ⟨-, hidden'⟩ := hstatement 1 _ TwoAliases.binds.2 hother
  constructor
  · have hnot : ¬TwoAliases.src.Hidden 1 ⟨"a", 0, none, "x"⟩ := by
      intro h
      obtain ⟨-, near, item, far, given, hsplit, hnear, hbinds, hne⟩ := (hidden halone).mp h
      rw [hitems] at hsplit
      cases near with
      | nil =>
        obtain ⟨rfl, -⟩ := List.cons.inj hsplit
        exact hne (hbinds.unique hx).2
      | cons c near =>
        obtain ⟨rfl, -⟩ := List.cons.inj hsplit
        exact hnear _ List.mem_cons_self _ hx
    obtain ⟨d, hd, hdecl, hstart, hstop, hspec⟩ := hfirst hnot
    rw [hzero] at hstart
    rw [hend] at hstop
    exact ⟨d, hd, hdecl, hstart, hstop, hspec⟩
  · exact (hidden' halone).mpr ⟨hkind, [], 3, [9], "x", hitems,
      fun x hx => absurd hx List.not_mem_nil, hx, by decide⟩

/-- The second name of the module is bound by the statement and recorded nowhere in the file. -/
theorem ParsedFile.second_alias_lost :
    let f := extract .python [] "a.py" TwoAliases.source TwoAliases.tree
    TwoAliases.src.Binds 1 ⟨"a", 0, none, "y"⟩ ∧
      ∀ d ∈ f.definitions, ∀ spec, d.importSpec = some spec →
        ¬spec.Binds ⟨"a", 0, none, "y"⟩ := by
  intro f
  refine ⟨TwoAliases.binds.2, fun d hd spec hspec hbinds => ?_⟩
  have hspecs : f.definitions.map Definition.importSpec = _ := TwoAliases.run_facts.2
  have hmem : some spec ∈ f.definitions.map Definition.importSpec :=
    hspec ▸ List.mem_map_of_mem hd
  rw [hspecs, List.mem_singleton, Option.some.injEq] at hmem
  obtain ⟨-, -, n, hn, hlocal, -⟩ := hbinds
  rw [hmem] at hn
  obtain rfl := List.mem_singleton.mp hn
  exact absurd (Option.some.inj hlocal) (by decide)

end CodeGraph
