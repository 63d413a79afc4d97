import CodeGraph.Extract
import CodeGraph.Inventory
import Mathlib.Data.List.Basic

/-!
# The smallest of some definitions

The caller of a call site is the smallest function, method or class around its first byte, and the
class of a method is the smallest type of that name around the whole of it. Both are found by going
through a list and keeping the smaller definition.

## Main definitions

* `Definition.smallest?`: the smallest of some definitions, the first one of equally small ones.
* `Definition.Hosts`: a type can own a method.

## Main results

* `Definition.smallest?_eq_none_iff`, `Definition.of_smallest?_eq_some`: what is kept.
* `innermost_eq_none_iff`, `of_innermost_eq_some`: the smallest definition around a byte.
* `owningClass?_eq_none_iff`, `of_owningClass?_eq_some`: the smallest type around a method.
-/

namespace CodeGraph

namespace Definition

/-- Keep the smaller one of two definitions, the first one if they are equally small. -/
def smaller (best : Option Definition) (d : Definition) : Option Definition :=
  match best with
  | none => some d
  | some b => if d.span < b.span then some d else some b

/-- The smallest of some definitions, the first one of equally small ones. -/
def smallest? (ds : List Definition) : Option Definition :=
  ds.foldl smaller none

/-- Keeping the smaller one leads to one of the definitions that is at most as large as all. -/
theorem exists_foldl_smaller (b : Definition) (ds : List Definition) :
    ∃ d ∈ b :: ds, ds.foldl smaller (some b) = some d ∧ ∀ e ∈ b :: ds, d.span ≤ e.span := by
  induction ds generalizing b with
  | nil => exact ⟨b, List.mem_cons_self, rfl, fun e he => (List.mem_singleton.mp he) ▸ Int.le_refl _⟩
  | cons c ds ih =>
    obtain ⟨kept, hkept, hstep, hb, hc⟩ : ∃ kept ∈ [b, c],
        smaller (some b) c = some kept ∧ kept.span ≤ b.span ∧ kept.span ≤ c.span := by
      by_cases hlt : c.span < b.span
      · exact ⟨c, by simp, if_pos hlt, Int.le_of_lt hlt, Int.le_refl _⟩
      · exact ⟨b, by simp, if_neg hlt, Int.le_refl _, Int.not_lt.mp hlt⟩
    obtain ⟨d, hd, hfold, hleast⟩ := ih kept
    refine ⟨d, ?_, ?_, fun e he => ?_⟩
    · rcases List.mem_cons.mp hd with rfl | hd
      · exact List.mem_append_left ds hkept
      · exact List.mem_append_right [b, c] hd
    · rw [List.foldl_cons, hstep, hfold]
    · have hd := hleast kept List.mem_cons_self
      rcases List.mem_cons.mp he with rfl | he
      · exact Int.le_trans hd hb
      rcases List.mem_cons.mp he with rfl | he
      · exact Int.le_trans hd hc
      · exact hleast e (List.mem_cons_of_mem kept he)

/-- Only of no definitions there is no smallest one. -/
theorem smallest?_eq_none_iff {ds : List Definition} : smallest? ds = none ↔ ds = [] := by
  cases ds with
  | nil => exact iff_of_true rfl rfl
  | cons b ds =>
    obtain ⟨d, -, hfold, -⟩ := exists_foldl_smaller b ds
    refine iff_of_false (fun h => ?_) (List.cons_ne_nil b ds)
    exact Option.some_ne_none d (hfold.symm.trans h)

/-- The smallest of some definitions is one of them, and at most as large as all. -/
theorem of_smallest?_eq_some {ds : List Definition} {d : Definition} (h : smallest? ds = some d) :
    d ∈ ds ∧ ∀ e ∈ ds, d.span ≤ e.span := by
  cases ds with
  | nil => cases h
  | cons b ds =>
    obtain ⟨d', hd', hfold, hleast⟩ := exists_foldl_smaller b ds
    obtain rfl := Option.some.inj (hfold.symm.trans h)
    exact ⟨hd', hleast⟩

end Definition

/-! ### The two searches -/

theorem innermost_eq_smallest? (ds : List Definition) (byte : Int) :
    innermost ds byte = Definition.smallest? (ds.filter (·.covers byte)) :=
  rfl

theorem owningClass?_eq_smallest? (types : List Definition) (method : Definition) :
    owningClass? types method = Definition.smallest?
      (types.filter fun t => some t.name = method.parentClass && t.encloses method) :=
  rfl

/-- There is no smallest definition around a byte exactly if there is none around it. -/
theorem innermost_eq_none_iff {ds : List Definition} {byte : Int} :
    innermost ds byte = none ↔ ∀ d ∈ ds, d.covers byte = false := by
  simp only [innermost_eq_smallest?, Definition.smallest?_eq_none_iff, List.filter_eq_nil_iff,
    Bool.not_eq_true]

/-- The smallest definition around a byte is one of them, and covers the byte. -/
theorem of_innermost_eq_some {ds : List Definition} {byte : Int} {d : Definition}
    (h : innermost ds byte = some d) :
    d ∈ ds ∧ d.covers byte = true ∧ ∀ e ∈ ds, e.covers byte = true → d.span ≤ e.span := by
  obtain ⟨hmem, hleast⟩ := Definition.of_smallest?_eq_some h
  obtain ⟨hmem, hcovers⟩ := List.mem_filter.mp hmem
  exact ⟨hmem, hcovers, fun e he hecovers => hleast e (List.mem_filter.mpr ⟨he, hecovers⟩)⟩

/-- A type can own a method if it has the name of its class and is around all of it. -/
def Definition.Hosts (t method : Definition) : Prop :=
  some t.name = method.parentClass ∧ t.encloses method = true

/-- A method has no class exactly if no type can own it. -/
theorem owningClass?_eq_none_iff {types : List Definition} {method : Definition} :
    owningClass? types method = none ↔ ∀ t ∈ types, ¬t.Hosts method := by
  simp only [owningClass?_eq_smallest?, Definition.smallest?_eq_none_iff, List.filter_eq_nil_iff,
    Definition.Hosts, Bool.and_eq_true, decide_eq_true_eq]

/-- The class of a method is one of the types that can own it, and at most as large as all. -/
theorem of_owningClass?_eq_some {types : List Definition} {method owner : Definition}
    (h : owningClass? types method = some owner) :
    owner ∈ types ∧ owner.Hosts method ∧ ∀ t ∈ types, t.Hosts method → owner.span ≤ t.span := by
  obtain ⟨hmem, hleast⟩ := Definition.of_smallest?_eq_some h
  simp only [List.mem_filter, Bool.and_eq_true, decide_eq_true_eq] at hmem hleast
  exact ⟨hmem.1, hmem.2, fun t ht hhosts => hleast t ⟨ht, hhosts⟩⟩

end CodeGraph
