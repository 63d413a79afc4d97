import CodeGraph.Proofs.Clashes
import Mathlib.Data.Prod.Lex
import Mathlib.Data.String.Basic

/-!
# What extraction finds in a file

All queries of a language run over a tree, and several of them find the same nodes. Of the finds
with the same span, kind and name the first one is kept, and what is kept is sorted by just these
four. So the definitions of a file are strictly increasing, and no two of them have the same text
behind their identifiers.

The kind is settled by the class around a definition before repeated finds are dropped. A method has
a class, and a function that a query took for a method has none.

## Main definitions

* `Definition.key`: what definitions are sorted by.
* `SourceTree.finds`: what the queries find, repeated finds included.

## Main results

* `Definition.le_iff_key`: definitions are sorted by their keys.
* `SourceTree.pairwise_key_definitions`: the definitions of a file are strictly increasing.
* `SourceTree.nodup_idSource_definitions`: the texts behind their identifiers are different.
* `SourceTree.mem_definitions_iff`: a definition is what is found first under its key.
* `SourceTree.exists_mem_definitions`: what is found stands among the definitions of a file.
* `ParsedFile.extract_increasing`: order, methods and callers of an extracted file.
-/

namespace CodeGraph

/-! ### The order of the text -/

/-- A comparison decides, and the less important order only where it does not. -/
theorem thenLe_compare {α : Type} [LinearOrder α] (a b : α) (le : Bool) :
    thenLe (compare a b) le = true ↔ a < b ∨ a = b ∧ le = true := by
  rcases lt_trichotomy a b with hlt | rfl | hgt
  · simp [thenLe, compare_lt_iff_lt.mpr hlt, hlt]
  · simp [thenLe]
  · simp [thenLe, compare_gt_iff_gt.mpr hgt, hgt.ne', hgt.le]

namespace Definition

/-- What definitions are sorted by: their spans, then the names of their kinds, then their names. -/
def key (d : Definition) : ℤ ×ₗ ℤ ×ₗ String ×ₗ String :=
  toLex (d.startByte, toLex (d.endByte, toLex (d.kind.name, d.name)))

theorem le_iff_key {d e : Definition} : d.le e = true ↔ d.key ≤ e.key := by
  simp only [le, thenLe_compare, decide_eq_true_iff, key, Prod.Lex.toLex_le_toLex]

/-- Definitions have the same key exactly if they are the same entity. -/
theorem key_eq_iff {d e : Definition} : d.key = e.key ↔ d.sameEntity e = true := by
  have hkind : d.kind.name = e.kind.name ↔ d.kind = e.kind :=
    ⟨fun h => DefinitionKind.name_inj (congrArg String.toList h), fun h => h ▸ rfl⟩
  simp only [key, sameEntity_iff, EmbeddingLike.apply_eq_iff_eq, Prod.mk.injEq, hkind]
  tauto

/-- Sorting definitions with different keys puts the keys in increasing order. -/
theorem pairwise_key_sort {ds : List Definition} (h : (ds.map key).Nodup) :
    (Sorting.sort le ds).Pairwise fun d e => d.key < e.key := by
  have hle : (Sorting.sort le ds).Pairwise fun d e => d.le e = true := by
    refine Sorting.pairwise_sort (fun a b c hab hbc => ?_) (fun a b => ?_) ds
    · exact le_iff_key.mpr ((le_iff_key.mp hab).trans (le_iff_key.mp hbc))
    · rw [Bool.or_eq_true, le_iff_key, le_iff_key]
      exact le_total a.key b.key
  have hne : (Sorting.sort le ds).Pairwise fun d e => d.key ≠ e.key :=
    List.pairwise_map.mp (((Sorting.sort_perm le ds).map key).nodup_iff.mpr h)
  exact hle.imp₂ (fun d e hle hne => lt_of_le_of_ne (le_iff_key.mp hle) hne) hne

end Definition

/-- Calls reach functions, methods and classes. -/
theorem DefinitionKind.isCallable_iff {kind : DefinitionKind} :
    kind.isCallable = true ↔ kind ∈ [functionDecl, methodDecl, classDecl] := by
  cases kind <;> decide

/-! ### The definitions of a file -/

namespace SourceTree

variable {src : SourceTree} {l : Language} {broken : List BrokenQuery} {path : String}

/-- What the queries find, in the order of the queries and with repeated finds. -/
def finds (src : SourceTree) (l : Language) (broken : List BrokenQuery) (path : String) :
    List Definition :=
  (l.queries.filter fun (name, _) => l.compiles broken name).flatMap fun (name, q) =>
    src.definitionsOf l path name q

theorem definitions_eq : src.definitions l broken path =
    Sorting.sort Definition.le (Definition.distinct (src.finds l broken path)) :=
  rfl

/-- The definitions of a file are strictly increasing. -/
theorem pairwise_key_definitions (src : SourceTree) (l : Language) (broken : List BrokenQuery)
    (path : String) :
    (src.definitions l broken path).Pairwise fun d e => d.key < e.key := by
  refine Definition.pairwise_key_sort ?_
  have hnodup := nodup_keys_fresh Definition.key [] (src.finds l broken path)
  rwa [← Definition.distinct_eq_fresh fun _ _ => Definition.key_eq_iff] at hnodup

/-- In one file the same text means the same entity. -/
theorem nodup_idSource_definitions (src : SourceTree) (l : Language) (broken : List BrokenQuery)
    (path : String) : ((src.definitions l broken path).map Definition.idSource).Nodup := by
  refine List.pairwise_map.mpr ((src.pairwise_key_definitions l broken path).imp_of_mem
    fun {d e} hd he hlt htext => ?_)
  have hpath : d.filePath = e.filePath :=
    (authentic_of_mem_definitions hd).filePath.trans (authentic_of_mem_definitions he).filePath.symm
  rcases Definition.idSource_eq_iff.mp htext with ⟨-, hsame⟩ | hoverlap | hoverlap
  · exact hlt.ne (Definition.key_eq_iff.mpr hsame)
  · exact hoverlap.filePath_ne hpath
  · exact hoverlap.filePath_ne hpath.symm

theorem mem_finds_of_mem_definitions {d : Definition} (h : d ∈ src.definitions l broken path) :
    d ∈ src.finds l broken path :=
  Definition.mem_of_mem_distinct (Sorting.mem_sort.mp h)

/-- Of everything that is found, a definition of the same span, kind and name is kept. -/
theorem exists_mem_definitions {d : Definition} (h : d ∈ src.finds l broken path) :
    ∃ e ∈ src.definitions l broken path, e.key = d.key := by
  have hkept : d.key ∈ [] ∨
      ∃ e ∈ fresh Definition.key [] (src.finds l broken path), e.key = d.key :=
    exists_mem_fresh [] h
  rcases hkept with hmem | ⟨e, he, hkey⟩
  · cases hmem
  · rw [← Definition.distinct_eq_fresh fun _ _ => Definition.key_eq_iff] at he
    exact ⟨e, Sorting.mem_sort.mpr he, hkey⟩

/-- The definitions are what is found first under its key. -/
theorem mem_definitions_iff {d : Definition} : d ∈ src.definitions l broken path ↔
    (src.finds l broken path).find? (fun e => e.key = d.key) = some d := by
  rw [definitions_eq, Sorting.mem_sort, Definition.distinct_eq_fresh fun _ _ =>
    Definition.key_eq_iff, mem_fresh_iff_find?, and_iff_right List.not_mem_nil]

/-- The class among some scopes is named by the first class-like node, and has a name. -/
theorem exists_of_classAmong {scopes : List Nat} {c : String}
    (h : src.classAmong l scopes = some c) :
    ∃ a, scopes.find? (fun a => decide (src.tree.kind a ∈ l.classKinds)) = some a ∧
      src.optionalText (src.tree.childByField? a "name") = c ∧ c ≠ "" := by
  induction scopes with
  | nil => cases h
  | cons i outer ih =>
    simp only [classAmong] at h
    split at h
    · cases h
    · split at h
      · next hclass =>
        rw [present?, Option.filter_eq_some_iff] at h
        exact ⟨i, List.find?_cons_of_pos (decide_eq_true hclass), Option.some.inj h.1,
          of_decide_eq_true h.2⟩
      · next hother =>
        rw [List.find?_cons_of_neg (by simpa using hother)]
        exact ih h

/-- Outside classes there are no methods. -/
theorem kindInside_none_ne (kind : DefinitionKind) (i : Nat) :
    src.kindInside kind none i ≠ .methodDecl := by
  cases kind <;> simp [kindInside]

/-- A method has a class. -/
theorem exists_parentClass_of_mem_definitions {d : Definition}
    (h : d ∈ src.definitions l broken path) (hkind : d.kind = .methodDecl) :
    ∃ c, d.parentClass = some c ∧ c ≠ "" := by
  rcases mem_definitions_cases h with ⟨kind, m, -, hm⟩ | ⟨i, spec, rfl⟩
  · obtain ⟨i, -, -, -, hinside, hparent, -, -⟩ := exists_of_declaration? hm
    rw [hparent]
    cases hclass : src.enclosingClass? l i with
    | some c =>
      obtain ⟨-, -, -, hne⟩ := exists_of_classAmong hclass
      exact ⟨c, rfl, hne⟩
    | none =>
      rw [hkind, hclass] at hinside
      exact absurd hinside.symm (kindInside_none_ne kind i)
  · cases hkind

end SourceTree

/--
The definitions that are extracted from a file are strictly increasing by start, end, kind and name,
they stand for everything that the queries find, and the texts behind their identifiers are
different. All methods have a class, and the caller of a call site is one of the functions, methods
and classes of the file.
-/
theorem ParsedFile.extract_increasing (l : Language) (broken : List BrokenQuery)
    (path content : String) (tree : SyntaxTree) :
    let f := extract l broken path content tree
    f.definitions.Pairwise (fun d e => d.key < e.key) ∧
    (∀ k, k ∈ f.definitions.map Definition.key ↔
      k ∈ (SourceTree.finds ⟨tree, content.toUTF8⟩ l broken path).map Definition.key) ∧
    (f.definitions.map Definition.idSource).Nodup ∧
    (∀ d ∈ f.definitions, d.kind = .methodDecl → ∃ c, d.parentClass = some c ∧ c ≠ "") ∧
    ∀ site ∈ f.callSites, ∀ id, site.callerId = some id →
      ∃ d ∈ f.definitions, d.kind ∈ [.functionDecl, .methodDecl, .classDecl] ∧ d.nodeId = id := by
  intro f
  have hincreasing : f.definitions.Pairwise fun d e => d.key < e.key :=
    SourceTree.pairwise_key_definitions _ l broken path
  refine ⟨hincreasing, fun k => ⟨?_, ?_⟩, ?_, fun d hd => ?_, fun site hsite id hid => ?_⟩
  · intro hk
    obtain ⟨d, hd, rfl⟩ := List.mem_map.mp hk
    exact List.mem_map_of_mem (SourceTree.mem_finds_of_mem_definitions hd)
  · intro hk
    obtain ⟨d, hd, rfl⟩ := List.mem_map.mp hk
    obtain ⟨e, he, hkey⟩ := SourceTree.exists_mem_definitions hd
    exact List.mem_map.mpr ⟨e, he, hkey⟩
  · exact SourceTree.nodup_idSource_definitions _ l broken path
  · exact SourceTree.exists_parentClass_of_mem_definitions hd
  · obtain ⟨d, hd, hcallable, hnode⟩ :=
      (authentic_extract l broken path content tree).caller site hsite id hid
    exact ⟨d, hd, DefinitionKind.isCallable_iff.mp hcallable, hnode⟩

end CodeGraph
