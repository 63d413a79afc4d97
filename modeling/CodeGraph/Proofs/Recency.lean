import CodeGraph.Proofs.Cache
import CodeGraph.Proofs.Fresh
import Mathlib.Algebra.BigOperators.Group.List.Basic
import Mathlib.Algebra.Ring.Int.Defs
import Mathlib.Data.List.Dedup

/-!
# The books of recency regions

A region keeps its values in one table, their sizes in another, and the total of the sizes in a
running sum. Whatever sequence of look-ups, insertions, removals and trimmings it goes through, the
two tables have the same keys, the sum is right, and the keys stand in the order in which they were
last used.

## Main definitions

* `Use`, `Region.after`: the operations of a region, and what they leave behind.
* `Region.touched`: the keys that a sequence of operations uses, one for each use.
* `Ledger.Records`: a ledger records the sizes of some entries.
* `Within`, `Round`: the bounds on entries, and a round of eviction that restores them.

## Main results

* `Ledger.Records.dropOldest`: eviction drops the shortest prefix that restores the bounds.
* `Region.Kept.after`: what one operation preserves.
* `Region.books_balance`: what holds after every sequence of operations.
-/

namespace CodeGraph

/-! ### Totals of ordered maps -/

namespace OrderedMap

variable {κ : Type} [DecidableEq κ]

/-- Erasing a key takes its value out of the sum. -/
theorem sum_values_erase {m : OrderedMap κ Int} (h : m.keys.Nodup) (k : κ) :
    (m.erase k).values.sum = m.values.sum - m.getD k 0 := by
  obtain ⟨es⟩ := m
  simp only [erase, values, getD, get?, keys] at h ⊢
  induction es with
  | nil => simp
  | cons e es ih =>
    obtain ⟨k', v⟩ := e
    obtain ⟨hnew, hrest⟩ := List.nodup_cons.mp h
    rw [List.lookup_cons]
    by_cases hk : k' = k
    · subst hk
      have hself : es.filter (fun e => decide (e.1 ≠ k')) = es :=
        List.filter_eq_self.mpr fun e he => decide_eq_true fun heq =>
          hnew (List.mem_map.mpr ⟨e, he, heq⟩)
      rw [List.filter_cons_of_neg (by simp), hself]
      simp
    · rw [List.filter_cons_of_pos (by simpa using hk), List.map_cons, List.sum_cons, ih hrest,
        beq_false_of_ne (Ne.symm hk), List.map_cons, List.sum_cons]
      exact add_sub_assoc _ _ _ |>.symm

end OrderedMap

namespace Cache

variable {κ ν : Type} {maxEntries : Int} {budget : Option Int} {sizeOf : ν → Int}

/-! ### Sizes of entries -/

/-- The size of a value; a reserved key takes none. -/
def sizeOfValue (sizeOf : ν → Int) (value : Option ν) : Int :=
  (value.map sizeOf).getD 0

/-- The total size of some entries. -/
def totalSize (sizeOf : ν → Int) (es : List (κ × Option ν)) : Int :=
  (es.map fun e => sizeOfValue sizeOf e.2).sum

/--
Entries keep to a bound on their number and to a budget. A negative bound leaves no entry, and a
single entry may exceed the budget.
-/
def Within (maxEntries : Int) (budget : Option Int) (sizeOf : ν → Int)
    (es : List (κ × Option ν)) : Prop :=
  (es.length : Int) ≤ max maxEntries 0 ∧
    ∀ b, budget = some b → totalSize sizeOf es ≤ b ∨ es.length ≤ 1

/-- A round of eviction: the shortest prefix goes that brings the entries within their bounds. -/
structure Round (maxEntries : Int) (budget : Option Int) (sizeOf : ν → Int)
    (before after : List (κ × Option ν)) (dropped : Nat) : Prop where
  eq_drop : after = before.drop dropped
  within : Within maxEntries budget sizeOf after
  shortest : ∀ n < dropped, ¬Within maxEntries budget sizeOf (before.drop n)

/-- Nothing is within all bounds. -/
theorem Within.nil : Within maxEntries budget sizeOf ([] : List (κ × Option ν)) :=
  ⟨Int.le_max_right _ _, fun _ _ => .inr (Nat.zero_le 1)⟩

/-- Entries have to go exactly if they are not within their bounds. -/
theorem isOver_iff (maxEntries : Int) (budget : Option Int) (sizeOf : ν → Int) (e : κ × Option ν)
    (es : List (κ × Option ν)) :
    Region.isOver maxEntries budget (es.length + 1) (totalSize sizeOf (e :: es)) = true ↔
      ¬Within maxEntries budget sizeOf (e :: es) := by
  rw [Within, List.length_cons]
  cases budget with
  | none =>
    simp only [Region.isOver, Option.map_none, Option.getD_none, Bool.and_false, Bool.or_false,
      decide_eq_true_eq, reduceCtorEq, false_implies, implies_true, and_true]
    omega
  | some b =>
    simp only [Region.isOver, Option.map_some, Option.getD_some, Bool.or_eq_true,
      Bool.and_eq_true, decide_eq_true_eq, Option.some.injEq, forall_eq']
    omega

/-! ### Ledgers -/

/-- A ledger records the sizes of some entries with different keys, and their total. -/
structure Ledger.Records (sizeOf : ν → Int) (l : Ledger κ) (es : List (κ × Option ν)) : Prop where
  nodup : (es.map Prod.fst).Nodup
  sizes : l.sizes.toList.Perm (es.map fun e => (e.1, sizeOfValue sizeOf e.2))
  total : l.total = l.sizes.values.sum

namespace Ledger.Records

variable {l : Ledger κ} {es es' : List (κ × Option ν)}

/-- An empty ledger records nothing. -/
protected theorem empty : ({} : Ledger κ).Records sizeOf [] :=
  ⟨List.nodup_nil, .refl _, rfl⟩

/-- The recorded keys are those of the entries. -/
theorem keys_perm (h : l.Records sizeOf es) : l.sizes.keys.Perm (es.map Prod.fst) := by
  have hkeys := h.sizes.map Prod.fst
  rwa [List.map_map] at hkeys

/-- The recorded keys are different. -/
theorem nodup_keys (h : l.Records sizeOf es) : l.sizes.keys.Nodup :=
  h.keys_perm.nodup_iff.mpr h.nodup

/-- The running total is the total size of the entries. -/
theorem total_eq (h : l.Records sizeOf es) : l.total = totalSize sizeOf es := by
  have hvalues : l.sizes.values.Perm (es.map fun e => sizeOfValue sizeOf e.2) := by
    have hperm := h.sizes.map Prod.snd
    rwa [List.map_map] at hperm
  rw [h.total, totalSize, hvalues.sum_eq]

/-- A ledger does not depend on the order of the entries. -/
theorem of_perm (h : l.Records sizeOf es) (hperm : es.Perm es') : l.Records sizeOf es' :=
  ⟨(hperm.map _).nodup_iff.mp h.nodup, h.sizes.trans (hperm.map _), h.total⟩

variable [DecidableEq κ]

/-- The recorded size of a key is that of its value. -/
theorem get?_sizes (h : l.Records sizeOf es) {key : κ} {value : Option ν}
    (hmem : (key, value) ∈ es) : l.sizes.get? key = some (sizeOfValue sizeOf value) :=
  OrderedMap.get?_of_mem_toList h.nodup_keys
    (h.sizes.mem_iff.mpr (List.mem_map.mpr ⟨(key, value), hmem, rfl⟩))

/-- Forgetting the size of a key leaves those of the others. -/
theorem forget (h : l.Records sizeOf es) (key : κ) :
    (l.forget key).Records sizeOf (es.filter (·.1 ≠ key)) := by
  refine ⟨h.nodup.sublist (List.filter_sublist.map _), ?_, ?_⟩
  · have hsizes := h.sizes.filter fun e => decide (e.1 ≠ key)
    rwa [List.filter_map] at hsizes
  · rw [Ledger.forget, OrderedMap.sum_values_erase h.nodup_keys, h.total]

/-- Recording the size of a new key adds it. -/
theorem record (h : l.Records sizeOf es) {key : κ} (hnew : key ∉ es.map Prod.fst)
    (value : Option ν) :
    (l.record key (sizeOfValue sizeOf value)).Records sizeOf (es ++ [(key, value)]) := by
  have hcontains : ¬l.sizes.contains key = true := by
    rw [OrderedMap.contains_iff_mem_keys, h.keys_perm.mem_iff]
    exact hnew
  have hsizes : (l.record key (sizeOfValue sizeOf value)).sizes.toList =
      l.sizes.toList ++ [(key, sizeOfValue sizeOf value)] := by
    simp only [Ledger.record, OrderedMap.insert, if_neg hcontains]
    rfl
  refine ⟨?_, ?_, ?_⟩
  · rw [List.map_append]
    exact List.nodup_append.mpr ⟨h.nodup, List.nodup_singleton _, fun k hk k' hk' heq => by
      rw [heq, List.mem_singleton.mp hk'] at hk
      exact hnew hk⟩
  · rw [hsizes, List.map_append]
    exact h.sizes.append_right _
  · rw [show (l.record key (sizeOfValue sizeOf value)).sizes.values =
        l.sizes.values ++ [sizeOfValue sizeOf value] from by
      rw [OrderedMap.values, ← OrderedMap.toList, hsizes, List.map_append]
      rfl]
    simp [Ledger.record, h.total]

/-- Dropping the oldest entries is a round of eviction, and the ledger keeps up with it. -/
theorem dropOldest (h : l.Records sizeOf es) (maxEntries : Int) (budget : Option Int) :
    ∃ kept l' n, Region.dropOldest maxEntries budget es l = (kept, l', n) ∧
      l'.Records sizeOf kept ∧ Round maxEntries budget sizeOf es kept n := by
  induction es generalizing l with
  | nil => exact ⟨[], l, 0, rfl, h, rfl, .nil, fun _ hn => absurd hn (Nat.not_lt_zero _)⟩
  | cons e es ih =>
    have hover := isOver_iff maxEntries budget sizeOf e es
    rw [← h.total_eq] at hover
    by_cases hgo : Region.isOver maxEntries budget (es.length + 1) l.total = true
    · have hothers : (e :: es).filter (·.1 ≠ e.1) = es := by
        obtain ⟨hnew, -⟩ := List.nodup_cons.mp h.nodup
        rw [List.filter_cons_of_neg (by simp)]
        exact List.filter_eq_self.mpr fun e' he' => decide_eq_true fun heq =>
          hnew (heq ▸ List.mem_map_of_mem he')
      obtain ⟨kept, l', n, hdrop, hrecords, hround⟩ := ih (hothers ▸ h.forget e.1)
      refine ⟨kept, l', n + 1, by simp only [Region.dropOldest, if_pos hgo, hdrop], hrecords,
        hround.eq_drop, hround.within, fun m hm => ?_⟩
      cases m with
      | zero => exact hover.mp hgo
      | succ m => exact hround.shortest m (Nat.lt_of_succ_lt_succ hm)
    · refine ⟨e :: es, l, 0, by simp only [Region.dropOldest, if_neg hgo], h, rfl, ?_,
        fun _ hn => absurd hn (Nat.not_lt_zero _)⟩
      exact not_not.mp fun hnot => hgo (hover.mpr hnot)

end Ledger.Records

/-! ### Operations -/

/-- An operation on a region. -/
inductive Use (κ ν : Type) where
  | get (key : κ) (counted : Bool)
  | put (key : κ) (value : ν)
  | pop (key : κ)
  | trim (budget : Int)
  | clear

/-- Whether an operation is a look-up that enters the counters. -/
def Use.isCounted : Use κ ν → Bool
  | .get _ counted => counted
  | _ => false

namespace Region

variable [DecidableEq κ] {r : Region κ ν} {seen : List κ}

/-- What an operation leaves behind; `sizeOf` gives the sizes of the values that are put. -/
def after (sizeOf : ν → Int) (r : Region κ ν) : Use κ ν → Region κ ν
  | .get key counted => (r.get key counted).2
  | .put key value => r.put key value (sizeOf value)
  | .pop key => (r.pop key).2
  | .trim budget => (r.trim budget).1
  | .clear => r.clear

/-- The key that an operation uses: one that is put, or looked up and found. -/
def touched? (r : Region κ ν) : Use κ ν → Option κ
  | .get key counted => (r.get key counted).1.map fun _ => key
  | .put key _ => some key
  | _ => none

/-- The keys that a sequence of operations uses, one for each use. -/
def touched (sizeOf : ν → Int) (r : Region κ ν) : List (Use κ ν) → List κ
  | [] => []
  | u :: us => (r.touched? u).toList ++ touched sizeOf (r.after sizeOf u) us

/-! ### What an operation preserves -/

/-- Listing each key where it occurs last: a further occurrence comes last. -/
theorem dedup_append_singleton (ks : List κ) (k : κ) :
    (ks ++ [k]).dedup = ks.dedup.filter (· ≠ k) ++ [k] := by
  induction ks with
  | nil => rfl
  | cons x ks ih =>
    rw [List.cons_append]
    by_cases hx : x ∈ ks
    · rw [List.dedup_cons_of_mem (List.mem_append_left _ hx), List.dedup_cons_of_mem hx, ih]
    · rw [List.dedup_cons_of_notMem hx]
      by_cases hk : x = k
      · rw [List.dedup_cons_of_mem (by simp [hk]), ih, List.filter_cons_of_neg (by simp [hk])]
      · rw [List.dedup_cons_of_notMem (by simp [hx, hk]), ih,
          List.filter_cons_of_pos (by simp [hk]), List.cons_append]

/--
A region that was filled with values: its ledger records their sizes, and its keys stand in the
order in which they were last used.
-/
structure Kept (sizeOf : ν → Int) (seen : List κ) (r : Region κ ν) : Prop where
  records : r.ledger.Records sizeOf r.store.toList
  valued : ∀ e ∈ r.store.toList, e.2.isSome = true
  recent : r.keys.Sublist seen.dedup

namespace Kept

/-- An empty region. -/
theorem start (maxEntries : Int) (maxBytes : Option Int) :
    ({ maxEntries, maxBytes } : Region κ ν).Kept sizeOf [] :=
  ⟨.empty, fun _ he => absurd he List.not_mem_nil, .slnil⟩

/-- Fewer entries, with their sizes forgotten, are still in order. -/
theorem of_sublist (h : r.Kept sizeOf seen) {r' : Region κ ν}
    (hrecords : r'.ledger.Records sizeOf r'.store.toList)
    (hsub : r'.store.toList.Sublist r.store.toList) : r'.Kept sizeOf seen :=
  ⟨hrecords, fun e he => h.valued e (hsub.subset he), (hsub.map Prod.fst).trans h.recent⟩

/-- A key that is used comes last, if its size is on record. -/
theorem refresh (h : r.Kept sizeOf seen) {r' : Region κ ν} {key : κ} {value : ν}
    (hstore : r'.store = r.refresh key (some value))
    (hrecords : r'.ledger.Records sizeOf r'.store.toList) : r'.Kept sizeOf (seen ++ [key]) := by
  have htoList := r.toList_refresh key (some value)
  refine ⟨hrecords, fun e he => ?_, ?_⟩
  · rw [hstore, htoList] at he
    rcases List.mem_append.mp he with he | he
    · exact h.valued e (List.mem_of_mem_filter he)
    · rw [List.mem_singleton.mp he]
      rfl
  · have hkeys : r'.keys = r.keys.filter (· ≠ key) ++ [key] := by
      rw [Region.keys, OrderedMap.keys, ← OrderedMap.toList, hstore, htoList, List.map_append,
        Region.keys, OrderedMap.keys, List.filter_map]
      rfl
    rw [hkeys, dedup_append_singleton]
    exact (h.recent.filter _).append_right _

/-- A value is there exactly if its key is. -/
theorem contains_iff (h : r.Kept sizeOf seen) (key : κ) :
    r.contains key = (r.peek? key).isSome := by
  rw [Region.contains, OrderedMap.contains, peek?]
  cases hget : r.store.get? key with
  | none => rfl
  | some value => exact (h.valued _ (OrderedMap.mem_toList_of_get? hget)).symm

/-- Look-up moves what it finds to the end. -/
theorem get (h : r.Kept sizeOf seen) (key : κ) (counted : Bool) :
    (r.get key counted).2.Kept sizeOf (seen ++ (r.touched? (.get key counted)).toList) := by
  cases hpeek : r.peek? key with
  | none =>
    simp only [Region.get, touched?, hpeek, Option.map_none, Option.toList_none, List.append_nil]
    exact ⟨h.records, h.valued, h.recent⟩
  | some v =>
    have hmem := mem_of_peek?_eq_some hpeek
    have hperm : r.store.toList.Perm (r.refresh key (some v)).toList := by
      rw [toList_refresh]
      have hsplit :=
        List.filter_append_perm (fun e : κ × Option ν => decide (e.1 ≠ key)) r.store.toList
      have hone : r.store.toList.filter (fun e => !decide (e.1 ≠ key)) = [(key, some v)] := by
        rw [← filter_key_eq_singleton h.records.nodup hmem]
        exact List.filter_congr fun e _ => by simp
      rw [hone] at hsplit
      exact hsplit.symm
    simp only [Region.get, touched?, hpeek, Option.map_some, Option.toList_some]
    exact h.refresh rfl (h.records.of_perm hperm)

/-- Removing a key forgets its size. -/
theorem pop (h : r.Kept sizeOf seen) (key : κ) : (r.pop key).2.Kept sizeOf seen := by
  cases hpeek : r.peek? key with
  | none =>
    have habsent : r.store.erase key = r.store := by
      have hnot : key ∉ r.store.keys := by
        rw [← OrderedMap.contains_iff_mem_keys, ← Region.contains, h.contains_iff, hpeek]
        exact Bool.false_ne_true
      refine congrArg OrderedMap.mk (List.filter_eq_self.mpr fun e he => decide_eq_true ?_)
      exact fun heq => hnot (List.mem_map.mpr ⟨e, he, heq⟩)
    simp only [Region.pop, hpeek, habsent]
    exact h
  | some v =>
    simp only [Region.pop, hpeek]
    exact h.of_sublist (h.records.forget key) List.filter_sublist

/-- Before an eviction, the ledger records the new value in place of the old one. -/
theorem insertEntry (h : r.Kept sizeOf seen) (key : κ) (value : ν) :
    (r.insertEntry key (some value) (sizeOf value)).Kept sizeOf (seen ++ [key]) := by
  refine h.refresh rfl ?_
  have hfreed : (if r.contains key then r.ledger.forget key else r.ledger).Records sizeOf
      (r.store.toList.filter (·.1 ≠ key)) := by
    split
    · exact h.records.forget key
    · next hnot =>
      have hself : r.store.toList.filter (·.1 ≠ key) = r.store.toList :=
        List.filter_eq_self.mpr fun e he => decide_eq_true fun heq =>
          hnot ((OrderedMap.contains_iff_mem_keys _ _).mpr (List.mem_map.mpr ⟨e, he, heq⟩))
      rw [hself]
      exact h.records
  have hnew : key ∉ (r.store.toList.filter (·.1 ≠ key)).map Prod.fst := by
    intro hmem
    obtain ⟨e, he, rfl⟩ := List.mem_map.mp hmem
    exact of_decide_eq_true (List.mem_filter.mp he).2 rfl
  rw [show (r.insertEntry key (some value) (sizeOf value)).store.toList =
    r.store.toList.filter (·.1 ≠ key) ++ [(key, some value)] from r.toList_refresh key _]
  exact hfreed.record hnew (some value)

/-- Eviction is a round down to the bound on entries and the budget. -/
theorem evict (h : r.Kept sizeOf seen) (budget : Option Int) :
    (r.evict budget).1.Kept sizeOf seen ∧
      Round r.maxEntries budget sizeOf r.store.toList (r.evict budget).1.store.toList
        (r.evict budget).2 ∧
      (r.evict budget).1.evictions = r.evictions + (r.evict budget).2 := by
  obtain ⟨kept, l', n, hdrop, hrecords, hround⟩ := h.records.dropOldest r.maxEntries budget
  have hevict : r.evict budget =
      ({ r with store := ⟨kept⟩, ledger := l', evictions := r.evictions + n }, n) := by
    simp only [Region.evict, hdrop]
  rw [hevict]
  refine ⟨h.of_sublist hrecords ?_, hround, rfl⟩
  change kept.Sublist r.store.toList
  rw [hround.eq_drop]
  exact List.drop_sublist n _

/-- What one operation preserves. -/
theorem after (h : r.Kept sizeOf seen) (u : Use κ ν) :
    (r.after sizeOf u).Kept sizeOf (seen ++ (r.touched? u).toList) := by
  cases u with
  | get key counted => exact h.get key counted
  | put key value => exact ((h.insertEntry key value).evict r.maxBytes).1
  | pop key =>
    simp only [Region.after, touched?, Option.toList_none, List.append_nil]
    exact h.pop key
  | trim budget =>
    simp only [Region.after, touched?, Option.toList_none, List.append_nil]
    exact (h.evict (some budget)).1
  | clear =>
    simp only [Region.after, touched?, Option.toList_none, List.append_nil]
    exact h.of_sublist .empty (List.nil_sublist _)

/-- What a sequence of operations preserves. -/
theorem foldl_after (h : r.Kept sizeOf seen) (us : List (Use κ ν)) :
    (us.foldl (Region.after sizeOf) r).Kept sizeOf (seen ++ r.touched sizeOf us) := by
  induction us generalizing r seen with
  | nil => simpa [touched] using h
  | cons u us ih =>
    rw [List.foldl_cons, touched, ← List.append_assoc]
    exact ih (h.after u)

end Kept

/-! ### Bounds and counters -/

/-- No operation changes the bounds. -/
theorem bounds_after (sizeOf : ν → Int) (r : Region κ ν) (u : Use κ ν) :
    (r.after sizeOf u).maxEntries = r.maxEntries ∧ (r.after sizeOf u).maxBytes = r.maxBytes := by
  cases u with
  | get key counted =>
    simp only [after, get]
    split <;> exact ⟨rfl, rfl⟩
  | put key value => exact ⟨rfl, rfl⟩
  | pop key =>
    simp only [after, pop]
    split <;> exact ⟨rfl, rfl⟩
  | trim budget => exact ⟨rfl, rfl⟩
  | clear => exact ⟨rfl, rfl⟩

/-- An operation counts as a hit or a miss exactly if it is a counted look-up. -/
theorem counters_after (r : Region κ ν) (u : Use κ ν) :
    (r.after sizeOf u).hits + (r.after sizeOf u).misses =
      r.hits + r.misses + if u.isCounted then 1 else 0 := by
  cases u with
  | get key counted =>
    simp only [after, get, Use.isCounted]
    split <;> cases counted <;> simp <;> omega
  | put key value => rfl
  | pop key =>
    simp only [after, pop]
    split <;> rfl
  | trim budget => rfl
  | clear => rfl

/-- The bounds stay as they are, and all counted look-ups are counted. -/
theorem foldl_after_bounds (sizeOf : ν → Int) (r : Region κ ν) (us : List (Use κ ν)) :
    (us.foldl (after sizeOf) r).maxEntries = r.maxEntries ∧
      (us.foldl (after sizeOf) r).maxBytes = r.maxBytes ∧
      (us.foldl (after sizeOf) r).hits + (us.foldl (after sizeOf) r).misses =
        r.hits + r.misses + us.countP Use.isCounted := by
  induction us generalizing r with
  | nil => exact ⟨rfl, rfl, rfl⟩
  | cons u us ih =>
    obtain ⟨hentries, hbytes, hcount⟩ := ih (r.after sizeOf u)
    obtain ⟨hentries', hbytes'⟩ := r.bounds_after sizeOf u
    rw [List.foldl_cons, hentries, hbytes, hcount, counters_after, List.countP_cons]
    exact ⟨hentries', hbytes', by omega⟩

/-! ### The books -/

/--
After every sequence of operations on an empty region, the size table has exactly the stored keys,
with the sizes of their values, and the running total is the sum of the recorded sizes. The stored
keys stand in the order of their last use, and the counters account for every counted look-up. One
more insertion ends in a round of eviction that starts from the entries with the new one last, and
leaves the region within its bounds; trimming is a round down to the given budget.
-/
theorem books_balance (maxEntries : Int) (maxBytes : Option Int) (sizeOf : ν → Int)
    (us : List (Use κ ν)) :
    let start : Region κ ν := { maxEntries, maxBytes }
    let r := us.foldl (after sizeOf) start
    r.keys.Nodup ∧ r.ledger.sizes.keys.Perm r.keys ∧
    (∀ key v, r.peek? key = some v → r.ledger.sizes.get? key = some (sizeOf v)) ∧
    r.bytes = r.ledger.sizes.values.sum ∧
    r.keys.Sublist (start.touched sizeOf us).dedup ∧
    r.hits + r.misses = us.countP Use.isCounted ∧
    (∀ key v, let r' := r.put key v (sizeOf v)
      (∃ n, Round maxEntries maxBytes sizeOf
          (r.store.toList.filter (·.1 ≠ key) ++ [(key, some v)]) r'.store.toList n ∧
        r'.evictions = r.evictions + n) ∧
      (r'.size : Int) ≤ max maxEntries 0 ∧
      ∀ b, maxBytes = some b → r'.bytes ≤ b ∨ r'.size ≤ 1) ∧
    ∀ budget, Round maxEntries (some budget) sizeOf r.store.toList
        (r.trim budget).1.store.toList (r.trim budget).2 ∧
      (r.trim budget).1.evictions = r.evictions + (r.trim budget).2 := by
  intro start r
  have hkept : r.Kept sizeOf (start.touched sizeOf us) :=
    (Kept.start maxEntries maxBytes).foldl_after us
  obtain ⟨hentries, hbytes, hcount⟩ : r.maxEntries = maxEntries ∧ r.maxBytes = maxBytes ∧
      r.hits + r.misses = 0 + us.countP Use.isCounted := start.foldl_after_bounds sizeOf us
  refine ⟨hkept.records.nodup, hkept.records.keys_perm, fun key v hv => ?_, hkept.records.total,
    hkept.recent, ?_, fun key v => ?_, fun budget => ?_⟩
  · exact hkept.records.get?_sizes (mem_of_peek?_eq_some hv)
  · rw [hcount, Nat.zero_add]
  · obtain ⟨hkept', hround, hevictions⟩ := (hkept.insertEntry key v).evict maxBytes
    have hbefore : (r.insertEntry key (some v) (sizeOf v)).store.toList =
        r.store.toList.filter (·.1 ≠ key) ++ [(key, some v)] := r.toList_refresh key (some v)
    have hlimit : (r.insertEntry key (some v) (sizeOf v)).maxEntries = maxEntries := hentries
    rw [hbefore, hlimit] at hround
    dsimp only
    rw [Region.put, hbytes]
    refine ⟨⟨_, hround, hevictions⟩, hround.within.1, fun b hb => ?_⟩
    rw [Region.bytes, hkept'.records.total_eq]
    exact hround.within.2 b hb
  · obtain ⟨-, hround, hevictions⟩ := hkept.evict (some budget)
    rw [hentries] at hround
    exact ⟨hround, hevictions⟩

end Region

end Cache

end CodeGraph
