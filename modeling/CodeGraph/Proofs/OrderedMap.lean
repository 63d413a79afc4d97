import CodeGraph.Number.Count
import CodeGraph.OrderedMap
import Mathlib.Data.List.Nodup
import Mathlib.Data.List.Perm.Basic

/-!
# Ordered maps as lists and as counters

What insertion builds up when the keys are all different, and what a sequence of increments counts.

## Main results

* `OrderedMap.ofList_eq_of_nodup`: a list with different keys is its own map.
* `OrderedMap.mem_toList_iff`: listing and look-up agree if the keys are different.
* `OrderedMap.toList_perm_of_get?_eq`: look-up determines the entries but for their order.
* `OrderedMap.get?_foldl_increment`, `OrderedMap.get?_tally`: a counter holds the number of
  occurrences.
* `OrderedMap.total_insert`: what an insertion does to a total.
* `OrderedMap.total_foldl_increment`: all counts together are the number of increments.
* `OrderedMap.get?_tally_perm`: counting does not depend on the order.
-/

namespace CodeGraph.OrderedMap

variable {κ ν : Type} [DecidableEq κ]

@[simp]
theorem get?_emptyCollection (k : κ) : (∅ : OrderedMap κ ν).get? k = none :=
  rfl

/-- Look-up in a map that is given by its entries. -/
theorem get?_mk (es : List (κ × ν)) (k : κ) : (⟨es⟩ : OrderedMap κ ν).get? k = es.lookup k :=
  rfl

/-- A changed value is found under its key, and nothing else changes. -/
theorem getD_alter (m : OrderedMap κ ν) (k k' : κ) (v : ν) (f : ν → ν) :
    (m.alter k v f).getD k' v = if k' = k then f (m.getD k v) else m.getD k' v := by
  rw [alter, getD, get?_insert]
  split <;> rfl

/-- Adding to the values of several keys adds as often as a key is named. -/
theorem getD_foldl_alter {α : Type} (m : OrderedMap κ (List α)) (ks : List κ) (a : α) (k : κ) :
    (ks.foldl (fun m s => m.alter s [] (· ++ [a])) m).getD k [] =
      m.getD k [] ++ List.replicate (ks.count k) a := by
  induction ks generalizing m with
  | nil => simp
  | cons x ks ih =>
    rw [List.foldl_cons, ih, getD_alter]
    by_cases hx : k = x
    · subst hx
      rw [if_pos rfl, List.count_cons_self, List.replicate_succ]
      simp
    · rw [if_neg hx, List.count_cons_of_ne (Ne.symm hx)]

/-- A key keeps its first value under insertion of new keys only. -/
theorem get?_insertNew (m : OrderedMap κ ν) (k k' : κ) (v : ν) :
    (m.insertNew k v).get? k' = if k' = k then some ((m.get? k).getD v) else m.get? k' := by
  unfold insertNew
  by_cases h : m.contains k = true
  · obtain ⟨w, hw⟩ := Option.isSome_iff_exists.mp h
    rw [if_pos h, hw, Option.getD_some]
    split
    · next hk => rw [hk, hw]
    · rfl
  · have hn : m.get? k = none := Option.not_isSome_iff_eq_none.mp h
    rw [if_neg h, hn, Option.getD_none, get?_mk, List.lookup_append]
    by_cases hk : k' = k
    · subst hk
      simp only [get?] at hn
      simp [hn]
    · simp [get?, hk, List.lookup_cons, beq_false_of_ne hk]

/-- What is found is listed. -/
theorem mem_toList_of_get? {m : OrderedMap κ ν} {k : κ} {v : ν} (h : m.get? k = some v) :
    (k, v) ∈ m.toList := by
  obtain ⟨es⟩ := m
  simp only [get?, toList] at h ⊢
  induction es with
  | nil => simp at h
  | cons e es ih =>
    obtain ⟨k', v'⟩ := e
    rw [List.lookup_cons] at h
    split at h
    · next heq =>
      obtain rfl : k = k' := eq_of_beq heq
      obtain rfl : v' = v := Option.some.inj h
      exact List.mem_cons_self
    · exact List.mem_cons_of_mem _ (ih h)

/-- What is listed is found, if the keys are different. -/
theorem get?_of_mem_toList {m : OrderedMap κ ν} (hm : m.keys.Nodup) {k : κ} {v : ν}
    (h : (k, v) ∈ m.toList) : m.get? k = some v := by
  obtain ⟨es⟩ := m
  simp only [get?, toList, keys] at *
  induction es with
  | nil => simp at h
  | cons e es ih =>
    obtain ⟨k', v'⟩ := e
    rw [List.map_cons, List.nodup_cons] at hm
    rw [List.lookup_cons]
    rcases List.mem_cons.mp h with heq | hrest
    · obtain ⟨rfl, rfl⟩ := Prod.mk.inj heq
      simp
    · have hne : k ≠ k' := by
        rintro rfl
        exact hm.1 (List.mem_map.mpr ⟨(k, v), hrest, rfl⟩)
      rw [beq_false_of_ne hne]
      exact ih hm.2 hrest

/-- Listing and look-up agree if the keys are different. -/
theorem mem_toList_iff {m : OrderedMap κ ν} (hm : m.keys.Nodup) {k : κ} {v : ν} :
    (k, v) ∈ m.toList ↔ m.get? k = some v :=
  ⟨get?_of_mem_toList hm, mem_toList_of_get?⟩

/-- Maps with the same look-up list the same entries. -/
theorem toList_perm_of_get?_eq {m m' : OrderedMap κ ν} (hm : m.keys.Nodup) (hm' : m'.keys.Nodup)
    (h : ∀ k, m.get? k = m'.get? k) : m.toList.Perm m'.toList := by
  have hmem : ∀ e, e ∈ m.toList ↔ e ∈ m'.toList := by
    rintro ⟨k, v⟩
    rw [mem_toList_iff hm, mem_toList_iff hm', h]
  exact (List.perm_ext_iff_of_nodup hm.of_map hm'.of_map).mpr hmem

theorem insertAll_append (m : OrderedMap κ ν) (es fs : List (κ × ν)) :
    m.insertAll (es ++ fs) = (m.insertAll es).insertAll fs :=
  List.foldl_append

/-- Entries under other keys do not matter to a key. -/
theorem get?_insertAll_of_notMem (m : OrderedMap κ ν) {es : List (κ × ν)} {k : κ}
    (h : k ∉ es.map Prod.fst) : (m.insertAll es).get? k = m.get? k := by
  induction es generalizing m with
  | nil => rfl
  | cons e es ih =>
    rw [List.map_cons, List.mem_cons, not_or] at h
    rw [insertAll, List.foldl_cons]
    refine (ih _ h.2).trans ?_
    rw [get?_insert, if_neg h.1]

/-- Inserting different new keys appends their entries. -/
theorem insertAll_eq_of_nodup (m : OrderedMap κ ν) (es : List (κ × ν))
    (h : (m.keys ++ es.map Prod.fst).Nodup) : m.insertAll es = ⟨m.entries ++ es⟩ := by
  induction es generalizing m with
  | nil => simp [insertAll]
  | cons e es ih =>
    have hnew : m.contains e.1 = false := by
      rw [← Bool.not_eq_true, contains_iff_mem_keys]
      intro hmem
      exact List.disjoint_of_nodup_append h hmem (by simp)
    have hstep : m.insert e.1 e.2 = ⟨m.entries ++ [e]⟩ := by
      simp [insert, hnew]
    have hkeys : (m.insert e.1 e.2).keys = m.keys ++ [e.1] := by
      rw [keys_insert, hnew]
      rfl
    have hrest := ih (m.insert e.1 e.2) (by rw [hkeys]; simpa using h)
    simp only [insertAll, List.foldl_cons] at hrest ⊢
    rw [hrest, hstep]
    simp

/-- A list with different keys is its own map. -/
theorem ofList_eq_of_nodup {es : List (κ × ν)} (h : (es.map Prod.fst).Nodup) :
    ofList es = ⟨es⟩ := by
  have hall := insertAll_eq_of_nodup (empty : OrderedMap κ ν) es (by simpa [keys, empty] using h)
  rw [ofList, hall]
  rfl

/-! ### Counters -/

/-- An increment adds one to its key. -/
theorem get?_increment (m : OrderedMap κ Nat) (k k' : κ) :
    (m.increment k).get? k' = if k' = k then some (m.getD k 0 + 1) else m.get? k' :=
  get?_insert m k k' _

/-- A sequence of increments adds to each key the number of its occurrences. -/
theorem get?_foldl_increment (m : OrderedMap κ Nat) (ks : List κ) (k : κ) :
    (ks.foldl increment m).get? k =
      if k ∈ ks then some (m.getD k 0 + ks.count k) else m.get? k := by
  induction ks generalizing m with
  | nil => simp
  | cons x ks ih =>
    rw [List.foldl_cons, ih, getD, get?_increment]
    by_cases hx : k = x
    · subst hx
      by_cases hk : k ∈ ks
      · simp only [hk, if_true, Option.getD_some, List.mem_cons, true_or, List.count_cons_self,
          Option.some.injEq]
        omega
      · simp [hk, List.count_eq_zero_of_not_mem hk, getD]
    · have hcount : (x :: ks).count k = ks.count k := List.count_cons_of_ne (Ne.symm hx)
      simp [hx, hcount, getD]

/-- Increments keep the keys distinct. -/
theorem nodup_keys_foldl_increment {m : OrderedMap κ Nat} (h : m.keys.Nodup) (ks : List κ) :
    (ks.foldl increment m).keys.Nodup := by
  induction ks generalizing m with
  | nil => exact h
  | cons k ks ih => exact ih (nodup_keys_insert h k _)

/-- Replacing the value of a key changes a total by the difference. -/
theorem total_replace (f : ν → Nat) {es : List (κ × ν)} (h : (es.map Prod.fst).Nodup) {k : κ}
    {v w : ν} (hw : es.lookup k = some w) :
    Count.total ((es.map fun e => if e.1 = k then (k, v) else e).map fun e => f e.2) + f w =
      Count.total (es.map fun e => f e.2) + f v := by
  induction es with
  | nil => cases hw
  | cons e es ih =>
    obtain ⟨k', n⟩ := e
    rw [List.map_cons, List.nodup_cons] at h
    rw [List.lookup_cons] at hw
    by_cases hk : k = k'
    · subst hk
      -- the other entries are under other keys
      have hother : es.map (fun e => if e.1 = k then (k, v) else e) = es := by
        refine (List.map_congr_left fun e he => if_neg ?_).trans (List.map_id es)
        exact fun heq => h.1 (List.mem_map.mpr ⟨e, he, heq⟩)
      obtain rfl : n = w := by simpa using hw
      simp only [List.map_cons, if_true, hother, Count.total_cons]
      omega
    · rw [beq_false_of_ne hk] at hw
      have hrest := ih h.2 hw
      simp only [List.map_cons, Ne.symm hk, if_false, Count.total_cons]
      omega

/-- An insertion adds the new value to a total and takes the replaced one away. -/
theorem total_insert (f : ν → Nat) {m : OrderedMap κ ν} (h : m.keys.Nodup) (k : κ) (v : ν) :
    Count.total ((m.insert k v).values.map f) + ((m.get? k).map f).getD 0 =
      Count.total (m.values.map f) + f v := by
  simp only [insert, values, List.map_map, Function.comp_def]
  split
  · next hk =>
    obtain ⟨w, hw⟩ := Option.isSome_iff_exists.mp hk
    rw [hw, Option.map_some, Option.getD_some, ← total_replace f h hw, List.map_map]
  · next hk =>
    have hnone : m.get? k = none := Option.not_isSome_iff_eq_none.mp hk
    rw [hnone, Option.map_none, Option.getD_none, List.map_append, Count.total_append]
    rfl

/-- An increment adds one to the total. -/
theorem total_increment {m : OrderedMap κ Nat} (h : m.keys.Nodup) (k : κ) :
    Count.total (m.increment k).values = Count.total m.values + 1 := by
  have hsum := total_insert id h k (m.getD k 0 + 1)
  rw [List.map_id, List.map_id, Option.map_id_fun, id, id] at hsum
  have hold : m.getD k 0 = (m.get? k).getD 0 := rfl
  show Count.total (m.insert k (m.getD k 0 + 1)).values = _
  omega

/-- A sequence of increments adds its length to the total. -/
theorem total_foldl_increment {m : OrderedMap κ Nat} (h : m.keys.Nodup) (ks : List κ) :
    Count.total (ks.foldl increment m).values = Count.total m.values + ks.length := by
  induction ks generalizing m with
  | nil => rfl
  | cons k ks ih =>
    have hkeys : (m.increment k).keys.Nodup := nodup_keys_insert h k _
    rw [List.foldl_cons, ih hkeys, total_increment h, List.length_cons]
    omega

/-- A tally holds the number of occurrences of every key that occurs. -/
theorem get?_tally (ks : List κ) (k : κ) :
    (tally ks).get? k = if k ∈ ks then some (ks.count k) else none := by
  rw [tally, get?_foldl_increment]
  simp [getD]

/-- Counting does not depend on the order, and counters may start anywhere. -/
theorem get?_foldl_increment_perm {m m' : OrderedMap κ Nat} {ks ks' : List κ}
    (hm : ∀ k, m.get? k = m'.get? k) (h : ks.Perm ks') (k : κ) :
    (ks.foldl increment m).get? k = (ks'.foldl increment m').get? k := by
  rw [get?_foldl_increment, get?_foldl_increment, getD, getD, hm k, h.count_eq k]
  simp only [h.mem_iff]

/-- Counting does not depend on the order. -/
theorem get?_tally_perm {ks ks' : List κ} (h : ks.Perm ks') (k : κ) :
    (tally ks).get? k = (tally ks').get? k :=
  get?_foldl_increment_perm (fun _ => rfl) h k

end CodeGraph.OrderedMap
