import CodeGraph.Text.Basic
import Mathlib.Data.List.Pairwise
import Mathlib.Data.List.Perm.Basic

/-!
# Sorting is stable

Inserting one item after the other gives what merging gives: the items in order, and those that are
tied as they were. If items are told apart by their keys, the order they came in is forgotten.

## Main results

* `Sorting.sort_perm`, `Sorting.mem_sort`: sorting keeps the items.
* `Sorting.sort_eq_mergeSort`: sorting by insertion is sorting by merging.
* `Sorting.filter_sort`, `Sorting.sort_key`: items that are tied keep their order.
* `Sorting.sort_eq_of_perm`: sorting by different keys forgets the order.
-/

namespace CodeGraph

namespace Sorting

variable {α : Type} {le : α → α → Bool}

/-! ### Items -/

theorem insert_perm (le : α → α → Bool) (x : α) (ys : List α) :
    (insert le x ys).Perm (x :: ys) := by
  induction ys with
  | nil => exact List.Perm.refl _
  | cons y ys ih =>
    rw [insert]
    split
    · exact List.Perm.refl _
    · exact (ih.cons y).trans (List.Perm.swap x y ys)

/-- Sorting keeps the items. -/
theorem sort_perm (le : α → α → Bool) (xs : List α) : (sort le xs).Perm xs := by
  induction xs with
  | nil => rw [sort_nil]
  | cons x xs ih =>
    rw [sort_cons]
    exact (insert_perm le x _).trans (ih.cons x)

@[simp]
theorem mem_sort {x : α} {xs : List α} : x ∈ sort le xs ↔ x ∈ xs :=
  (sort_perm le xs).mem_iff

/-! ### Order -/

/-- An item is inserted behind all that it may not come before. -/
theorem insert_append {x : α} {front back : List α} (hfront : ∀ y ∈ front, le x y = false)
    (hback : ∀ y ∈ back, le x y = true) :
    insert le x (front ++ back) = front ++ x :: back := by
  induction front with
  | nil =>
    cases back with
    | nil => rfl
    | cons y back => exact if_pos (hback y List.mem_cons_self)
  | cons y front ih =>
    rw [List.cons_append, insert, hfront y List.mem_cons_self, if_neg Bool.false_ne_true,
      ih fun z hz => hfront z (List.mem_cons_of_mem y hz), List.cons_append]

variable (htrans : ∀ a b c, le a b = true → le b c = true → le a c = true)
  (htotal : ∀ a b, (le a b || le b a) = true)

include htrans htotal

/-- Sorting by insertion is sorting by merging. -/
theorem sort_eq_mergeSort (xs : List α) : sort le xs = xs.mergeSort le := by
  induction xs with
  | nil => rw [sort_nil, List.mergeSort_nil]
  | cons x xs ih =>
    obtain ⟨front, back, hcons, hsorted, hfront⟩ := List.mergeSort_cons htrans htotal x xs
    have hpairwise := List.pairwise_mergeSort htrans htotal (x :: xs)
    rw [hcons, List.pairwise_append, List.pairwise_cons] at hpairwise
    rw [sort_cons, ih, hsorted, hcons]
    exact insert_append (fun y hy => Bool.not_eq_true' _ ▸ hfront y hy) hpairwise.2.1.1

theorem pairwise_sort (xs : List α) : (sort le xs).Pairwise fun a b => le a b = true := by
  rw [sort_eq_mergeSort htrans htotal]
  exact List.pairwise_mergeSort htrans htotal xs

/-- Sorting keeps the order of items that are tied with each other. -/
theorem filter_sort (xs : List α) {p : α → Bool}
    (htied : ∀ a b, p a = true → p b = true → le a b = true) :
    (sort le xs).filter p = xs.filter p := by
  have hpairwise : (xs.filter p).Pairwise fun a b => le a b = true := by
    refine List.pairwise_of_forall_mem_list fun a ha b hb => ?_
    exact htied a b (List.mem_filter.mp ha).2 (List.mem_filter.mp hb).2
  have hsub : (xs.filter p).Sublist (sort le xs) := by
    rw [sort_eq_mergeSort htrans htotal]
    exact List.sublist_mergeSort htrans htotal hpairwise List.filter_sublist
  have hfiltered : (xs.filter p).Sublist ((sort le xs).filter p) := by
    simpa using hsub.filter p
  exact (hfiltered.eq_of_length ((sort_perm le xs).filter p).length_eq.symm).symm

end Sorting

/-! ### Sorting by keys -/

namespace Sorting

variable {α : Type}

/-- Sorting by a key sorts, and keeps the order of items with the same key. -/
theorem sort_key (key : α → Int) (xs : List α) :
    let sorted := sort (fun a b => decide (key a ≤ key b)) xs
    sorted = xs.mergeSort (fun a b => decide (key a ≤ key b)) ∧
      sorted.Pairwise (fun a b => key a ≤ key b) ∧
      ∀ k, sorted.filter (key · = k) = xs.filter (key · = k) := by
  have htrans : ∀ a b c, decide (key a ≤ key b) = true → decide (key b ≤ key c) = true →
      decide (key a ≤ key c) = true := by
    intro a b c hab hbc
    exact decide_eq_true (Int.le_trans (of_decide_eq_true hab) (of_decide_eq_true hbc))
  have htotal : ∀ a b, (decide (key a ≤ key b) || decide (key b ≤ key a)) = true := by
    intro a b
    simpa using Int.le_total (key a) (key b)
  refine ⟨sort_eq_mergeSort htrans htotal xs,
    (pairwise_sort htrans htotal xs).imp of_decide_eq_true, fun k => ?_⟩
  refine filter_sort htrans htotal xs fun a b ha hb => decide_eq_true ?_
  exact Int.le_of_eq ((of_decide_eq_true ha).trans (of_decide_eq_true hb).symm)

/-- Sorting by a text sorts. -/
theorem pairwise_sort_text (key : α → String) (xs : List α) :
    (sort (fun a b => decide (key a ≤ key b)) xs).Pairwise fun a b => key a ≤ key b := by
  refine (pairwise_sort (fun a b c hab hbc => ?_) (fun a b => ?_) xs).imp of_decide_eq_true
  · exact decide_eq_true (String.le_trans (of_decide_eq_true hab) (of_decide_eq_true hbc))
  · rw [Bool.or_eq_true, decide_eq_true_iff, decide_eq_true_iff]
    exact String.le_total _ _

/-- If equal keys mean equal items, sorting by keys forgets the order. -/
theorem sort_eq_of_perm (key : α → String) {as bs : List α} (h : as.Perm bs)
    (hkey : ∀ a ∈ as, ∀ b ∈ as, key a = key b → a = b) :
    sort (fun a b => decide (key a ≤ key b)) as = sort (fun a b => decide (key a ≤ key b)) bs := by
  refine List.Perm.eq_of_pairwise (fun a b ha hb hab hba => ?_) (pairwise_sort_text key as)
    (pairwise_sort_text key bs) ((sort_perm _ as).trans (h.trans (sort_perm _ bs).symm))
  exact hkey a (mem_sort.mp ha) b (h.mem_iff.mpr (mem_sort.mp hb)) (String.le_antisymm hab hba)

end Sorting

/-- Sorted texts are in order. -/
theorem Text.pairwise_sort (xs : List String) : (sort xs).Pairwise (· ≤ ·) :=
  Sorting.pairwise_sort_text id xs

/-- Sorted texts do not depend on their order. -/
theorem Text.sort_eq_of_perm {xs ys : List String} (h : xs.Perm ys) : sort xs = sort ys :=
  Sorting.sort_eq_of_perm id h fun _ _ _ _ heq => heq

/-- Texts that are in order stay as they are. -/
theorem Text.sort_of_pairwise {xs : List String} (h : xs.Pairwise (· ≤ ·)) : sort xs = xs :=
  (Sorting.sort_perm _ xs).eq_of_pairwise (fun _ _ _ _ => String.le_antisymm)
    (pairwise_sort xs) h

end CodeGraph
