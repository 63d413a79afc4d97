import CodeGraph.Language.Basic
import CodeGraph.Proofs.SyntaxTree

/-!
# What the grammars promise

A grammar says which fields a node of a kind has, and whether a field can hold several children.
The queries read such fields by pattern, and the rest of extraction reads the first child of a
field. Both read the same wherever the grammar gives a field once.

## Main definitions

* `Language.singleFields`: the fields of calls and declarators that hold one child.
* `SyntaxTree.FieldsOnce`: a tree keeps to this.
* `SyntaxTree.Linked`: the children of a node name it as their parent.

## Main results

* `SyntaxTree.childByField?_eq`: a child in a field that holds one is the first one there.
* `SyntaxTree.linked_ofRows`: a table of rows is linked.
-/

namespace CodeGraph

/-- The script languages' fields that hold one child, of those that calls and declarators have. -/
def Language.scriptFields : List (String × String) :=
  [("variable_declarator", "name"), ("variable_declarator", "value"),
   ("call_expression", "function"), ("member_expression", "object"),
   ("member_expression", "property"), ("new_expression", "constructor")]

/-- Kinds of nodes with fields that hold one child, of those that calls and declarators have. -/
def Language.singleFields : Language → List (String × String)
  | python => [("call", "function"), ("attribute", "object"), ("attribute", "attribute")]
  | javascript | typescript | tsx => scriptFields
  | java =>
    [("method_invocation", "object"), ("method_invocation", "name"),
     ("object_creation_expression", "type")]

namespace SyntaxTree

/-- Fields that the grammar of a language gives once hold at most one child. -/
def FieldsOnce (t : SyntaxTree) (l : Language) : Prop :=
  ∀ p ∈ l.singleFields, ∀ i < t.nodes.size, t.kind i = p.1 →
    (t.childrenByField i p.2).length ≤ 1

instance (t : SyntaxTree) (l : Language) : Decidable (t.FieldsOnce l) :=
  inferInstanceAs (Decidable (∀ p ∈ l.singleFields, ∀ i < t.nodes.size, t.kind i = p.1 →
    (t.childrenByField i p.2).length ≤ 1))

/-- The children of a node name it as their parent. -/
def Linked (t : SyntaxTree) : Prop :=
  ∀ p < t.nodes.size, ∀ c ∈ t.children p, t.parent? c = some p

instance (t : SyntaxTree) : Decidable t.Linked :=
  inferInstanceAs (Decidable (∀ p < t.nodes.size, ∀ c ∈ t.children p, t.parent? c = some p))

variable {t : SyntaxTree}

/-- The child of a field is a child, in that field. -/
theorem mem_of_childByField? {i c : Nat} {field : String} (h : t.childByField? i field = some c) :
    c ∈ t.children i ∧ (t.node c).field = some field := by
  obtain ⟨hmem, hfield⟩ := List.mem_filter.mp (List.mem_of_head? h)
  exact ⟨hmem, of_decide_eq_true hfield⟩

/-- If a field of a node holds one child at most, any child there is the first one. -/
theorem childByField?_eq {i c : Nat} {field : String}
    (honce : (t.childrenByField i field).length ≤ 1) (hc : c ∈ t.children i)
    (hin : (t.node c).field = some field) : t.childByField? i field = some c := by
  have hmem : c ∈ t.childrenByField i field := List.mem_filter.mpr ⟨hc, decide_eq_true hin⟩
  obtain ⟨d, hd⟩ := List.length_eq_one_iff.mp
    (Nat.le_antisymm honce (List.length_pos_of_mem hmem))
  rw [hd, List.mem_singleton] at hmem
  rw [childByField?, hd, hmem, List.head?_cons]

/-- In a field that the grammar gives once, any child is the first one. -/
theorem FieldsOnce.childByField?_eq {l : Language} (h : t.FieldsOnce l) {i c : Nat} {field : String}
    (hfield : (t.kind i, field) ∈ l.singleFields) (hi : i < t.nodes.size) (hc : c ∈ t.children i)
    (hin : (t.node c).field = some field) : t.childByField? i field = some c :=
  SyntaxTree.childByField?_eq (h _ hfield i hi rfl) hc hin

/-- The children of a node in a table of rows are the rows that name it. -/
theorem linked_ofRows {rows : List SyntaxNode} {hasError : Bool}
    (h : ∀ row ∈ rows, row.children = []) : (ofRows rows hasError).Linked := by
  intro p hp c hc
  rw [size_ofRows] at hp
  rw [children, node_ofRows h hp] at hc
  obtain ⟨hrange, hparent⟩ := List.mem_filter.mp hc
  have hlt := List.mem_range.mp hrange
  rw [decide_eq_true_eq, List.getElem?_eq_getElem hlt] at hparent
  rw [parent?, node_ofRows h hlt]
  exact hparent

end SyntaxTree

end CodeGraph
