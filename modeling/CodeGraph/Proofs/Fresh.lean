import Mathlib.Data.List.Induction
import Mathlib.Data.List.Nodup
import Mathlib.Data.List.Perm.Basic

/-!
# Items under new keys

A store that refuses a second record under a known key keeps, of everything it is offered, the
first record of each new key. `fresh` lists these records, so that what a sequence of guarded
insertions leaves behind can be said in one expression.

## Main definitions

* `fresh`: the items whose keys are neither taken nor used by an earlier item.

## Main results

* `mem_of_mem_fresh`, `exists_mem_fresh`: what is kept was offered, and every new key is kept.
* `fresh_append`: keeping is a matter of one item after the other.
* `fresh_flatMap`: groups whose keys do not meet are kept independently of each other.
* `fresh_perm`: the order of offers does not matter if equal keys mean equal items.
* `filter_fresh`: choosing items and keeping one for each key may be interchanged.
* `filter_eq_of_perm`, `filter_key_eq_singleton`, `filter_flatMap_eq`: the items under one key.
* `foldl_prefix_induction`: invariants of a fold that tell which items came before.
-/

namespace CodeGraph

variable {α β κ : Type} [DecidableEq κ]

/-- The items of a list whose keys are neither taken nor used by an earlier item. -/
def fresh (key : α → κ) : List κ → List α → List α
  | _, [] => []
  | taken, a :: as =>
    if key a ∈ taken then fresh key taken as else a :: fresh key (key a :: taken) as

@[simp]
theorem fresh_nil (key : α → κ) (taken : List κ) : fresh key taken [] = [] :=
  rfl

/-- Only which keys are taken matters, not how they are listed. -/
theorem fresh_congr {key : α → κ} {taken taken' : List κ} (h : ∀ k, k ∈ taken ↔ k ∈ taken')
    (as : List α) : fresh key taken as = fresh key taken' as := by
  induction as generalizing taken taken' with
  | nil => rfl
  | cons a as ih =>
    simp only [fresh, h (key a)]
    split
    · exact ih h
    · rw [ih]
      intro k
      simp only [List.mem_cons, h k]

/-- Appending what is not the same as something before keeps the first item of each key. -/
theorem foldl_append_eq_fresh {key : α → κ} {same : α → α → Bool}
    (hsame : ∀ a b, same a b = true ↔ key a = key b) (seen as : List α) :
    as.foldl (fun seen a => if seen.any (same a) then seen else seen ++ [a]) seen =
      seen ++ fresh key (seen.map key) as := by
  induction as generalizing seen with
  | nil => simp
  | cons a as ih =>
    have hseen : seen.any (same a) = true ↔ key a ∈ seen.map key := by
      rw [List.any_eq_true, List.mem_map]
      exact exists_congr fun b => and_congr_right fun _ => (hsame a b).trans eq_comm
    rw [List.foldl_cons, ih, fresh]
    by_cases ha : key a ∈ seen.map key
    · rw [if_pos (hseen.mpr ha), if_pos ha]
    · have hcongr : fresh key ((seen ++ [a]).map key) as = fresh key (key a :: seen.map key) as :=
        fresh_congr (fun k => by simp [or_comm]) as
      rw [if_neg (mt hseen.mp ha), if_neg ha, hcongr, List.append_assoc, List.singleton_append]

/-- What is kept of two lists: what is kept of the first, and then of the second. -/
theorem fresh_append (key : α → κ) (taken : List κ) (as bs : List α) :
    fresh key taken (as ++ bs) =
      fresh key taken as ++ fresh key (taken ++ as.map key) bs := by
  induction as generalizing taken with
  | nil => simp
  | cons a as ih =>
    simp only [List.cons_append, fresh, List.map_cons]
    split
    · next hmem =>
      rw [ih]
      congr 1
      refine fresh_congr (fun k => ?_) bs
      simp only [List.mem_append, List.mem_cons]
      constructor
      · rintro (hk | hk)
        · exact .inl hk
        · exact .inr (.inr hk)
      · rintro (hk | rfl | hk)
        · exact .inl hk
        · exact .inl hmem
        · exact .inr hk
    · rw [ih, List.cons_append]
      congr 2
      refine fresh_congr (fun k => ?_) bs
      simp only [List.mem_cons, List.mem_append]
      tauto

/-- What is kept was offered, under a key that was not taken. -/
theorem mem_of_mem_fresh {key : α → κ} {taken : List κ} {as : List α} {a : α}
    (h : a ∈ fresh key taken as) : a ∈ as ∧ key a ∉ taken := by
  induction as generalizing taken with
  | nil => simp at h
  | cons b as ih =>
    simp only [fresh] at h
    split at h
    · obtain ⟨hmem, hnew⟩ := ih h
      exact ⟨List.mem_cons_of_mem b hmem, hnew⟩
    · next hb =>
      rcases List.mem_cons.mp h with rfl | h
      · exact ⟨List.mem_cons_self, hb⟩
      · obtain ⟨hmem, hnew⟩ := ih h
        exact ⟨List.mem_cons_of_mem b hmem, fun hk => hnew (List.mem_cons_of_mem _ hk)⟩

/-- What is kept stands in the order of the offers. -/
theorem fresh_sublist (key : α → κ) (taken : List κ) (as : List α) :
    (fresh key taken as).Sublist as := by
  induction as generalizing taken with
  | nil => exact List.Sublist.refl _
  | cons a as ih =>
    simp only [fresh]
    split
    · exact (ih taken).cons a
    · exact (ih _).cons_cons a

/-- Every key that is offered is taken or kept. -/
theorem exists_mem_fresh {key : α → κ} (taken : List κ) {as : List α} {a : α} (h : a ∈ as) :
    key a ∈ taken ∨ ∃ b ∈ fresh key taken as, key b = key a := by
  induction as generalizing taken with
  | nil => simp at h
  | cons c as ih =>
    simp only [fresh]
    rcases List.mem_cons.mp h with rfl | h
    · split
      · next hmem => exact .inl hmem
      · exact .inr ⟨a, List.mem_cons_self, rfl⟩
    · split
      · exact ih taken h
      · rcases ih (key c :: taken) h with hk | ⟨b, hb, hkey⟩
        · rcases List.mem_cons.mp hk with hk | hk
          · exact .inr ⟨c, List.mem_cons_self, hk.symm⟩
          · exact .inl hk
        · exact .inr ⟨b, List.mem_cons_of_mem c hb, hkey⟩

/-- With what is kept, all taken and all offered keys are there. -/
theorem mem_append_keys_fresh (key : α → κ) (taken : List κ) (as : List α) (k : κ) :
    k ∈ taken ++ (fresh key taken as).map key ↔ k ∈ taken ∨ k ∈ as.map key := by
  rw [List.mem_append]
  constructor
  · rintro (hk | hk)
    · exact .inl hk
    · obtain ⟨a, ha, rfl⟩ := List.mem_map.mp hk
      exact .inr (List.mem_map_of_mem (mem_of_mem_fresh ha).1)
  · rintro (hk | hk)
    · exact .inl hk
    · obtain ⟨a, ha, rfl⟩ := List.mem_map.mp hk
      rcases exists_mem_fresh taken ha with hk | ⟨b, hb, hkey⟩
      · exact .inl hk
      · exact .inr (List.mem_map.mpr ⟨b, hb, hkey⟩)

/-- The kept items have different keys. -/
theorem nodup_keys_fresh (key : α → κ) (taken : List κ) (as : List α) :
    ((fresh key taken as).map key).Nodup := by
  induction as generalizing taken with
  | nil => simp
  | cons a as ih =>
    simp only [fresh]
    split
    · exact ih taken
    · rw [List.map_cons, List.nodup_cons]
      refine ⟨fun hmem => ?_, ih _⟩
      obtain ⟨b, hb, hkey⟩ := List.mem_map.mp hmem
      exact (mem_of_mem_fresh hb).2 (hkey ▸ List.mem_cons_self)

/-- Taken keys stay different from each other and from those of the kept items. -/
theorem nodup_append_keys_fresh {key : α → κ} {taken : List κ} (h : taken.Nodup) (as : List α) :
    (taken ++ (fresh key taken as).map key).Nodup := by
  refine List.nodup_append.mpr ⟨h, nodup_keys_fresh key taken as, fun k hk k' hk' heq => ?_⟩
  obtain ⟨a, ha, rfl⟩ := List.mem_map.mp hk'
  exact (mem_of_mem_fresh ha).2 (heq ▸ hk)

/-- Different new keys are all kept. -/
theorem fresh_eq_self {key : α → κ} {taken : List κ} {as : List α} (hnodup : (as.map key).Nodup)
    (hnew : ∀ a ∈ as, key a ∉ taken) : fresh key taken as = as := by
  induction as generalizing taken with
  | nil => rfl
  | cons a as ih =>
    rw [List.map_cons, List.nodup_cons] at hnodup
    rw [fresh, if_neg (hnew a List.mem_cons_self), ih hnodup.2]
    intro b hb hmem
    rcases List.mem_cons.mp hmem with heq | hmem
    · exact hnodup.1 (heq ▸ List.mem_map_of_mem hb)
    · exact hnew b (List.mem_cons_of_mem a hb) hmem

/-- What was kept is kept again. -/
theorem fresh_fresh (key : α → κ) (taken : List κ) (as : List α) :
    fresh key taken (fresh key taken as) = fresh key taken as :=
  fresh_eq_self (nodup_keys_fresh key taken as) fun _ ha => (mem_of_mem_fresh ha).2

/-- Keeping commutes with a change of the items that goes along with their keys. -/
theorem fresh_map (key : β → κ) (f : α → β) (taken : List κ) (as : List α) :
    fresh key taken (as.map f) = (fresh (fun a => key (f a)) taken as).map f := by
  induction as generalizing taken with
  | nil => rfl
  | cons a as ih =>
    simp only [List.map_cons, fresh]
    split
    · exact ih taken
    · rw [ih, List.map_cons]

/-- Taken keys that no item has do not matter. -/
theorem fresh_append_left {key : α → κ} {taken more : List κ} {as : List α}
    (h : ∀ a ∈ as, key a ∉ more) : fresh key (taken ++ more) as = fresh key taken as := by
  induction as generalizing taken with
  | nil => rfl
  | cons a as ih =>
    have ha : key a ∉ more := h a List.mem_cons_self
    have hrest : ∀ b ∈ as, key b ∉ more := fun b hb => h b (List.mem_cons_of_mem a hb)
    simp only [fresh, List.mem_append, ha, or_false]
    split
    · exact ih hrest
    · rw [← List.cons_append, ih hrest]

/-- Groups whose keys do not meet are kept independently of each other. -/
theorem fresh_flatMap {key : α → κ} {taken : List κ} {groups : List β} {f : β → List α}
    (h : groups.Pairwise fun x y => ∀ a ∈ f x, ∀ b ∈ f y, key b ≠ key a) :
    fresh key taken (groups.flatMap f) = groups.flatMap fun x => fresh key taken (f x) := by
  induction groups with
  | nil => rfl
  | cons x groups ih =>
    obtain ⟨hx, hrest⟩ := List.pairwise_cons.mp h
    rw [List.flatMap_cons, List.flatMap_cons, fresh_append, fresh_append_left, ih hrest]
    intro b hb hmem
    obtain ⟨y, hy, hby⟩ := List.mem_flatMap.mp hb
    obtain ⟨a, ha, hkey⟩ := List.mem_map.mp hmem
    exact hx y hy a ha b hby hkey.symm

/-- If equal keys mean equal items, the kept items are the offered ones under new keys. -/
theorem mem_fresh_iff {key : α → κ} {taken : List κ} {as : List α} {a : α}
    (hkey : ∀ a ∈ as, ∀ b ∈ as, key a = key b → a = b) :
    a ∈ fresh key taken as ↔ a ∈ as ∧ key a ∉ taken := by
  refine ⟨mem_of_mem_fresh, fun ⟨hmem, hnew⟩ => ?_⟩
  obtain ⟨b, hb, hab⟩ := (exists_mem_fresh taken hmem).resolve_left hnew
  exact hkey b (mem_of_mem_fresh hb).1 a hmem hab ▸ hb

/-- What is kept is the first item of its key, if the key was not taken. -/
theorem mem_fresh_iff_find? {key : α → κ} {taken : List κ} {as : List α} {a : α} :
    a ∈ fresh key taken as ↔ key a ∉ taken ∧ as.find? (key · = key a) = some a := by
  induction as generalizing taken with
  | nil => simp
  | cons b as ih =>
    rw [fresh, List.find?_cons]
    by_cases hkey : key b = key a
    · rw [decide_eq_true hkey]
      split
      · next htaken =>
        rw [ih]
        exact iff_of_false (fun h => h.1 (hkey ▸ htaken)) fun h => h.1 (hkey ▸ htaken)
      · next htaken =>
        rw [List.mem_cons, ih, ← hkey]
        simp [htaken, eq_comm]
    · rw [decide_eq_false hkey]
      split
      · exact ih
      · rw [List.mem_cons, ih, List.mem_cons, not_or]
        simp only [Ne.symm hkey, not_false_eq_true, true_and, or_iff_right_iff_imp]
        rintro rfl
        exact absurd rfl hkey

/-- The order of offers does not matter if equal keys mean equal items. -/
theorem fresh_perm {key : α → κ} {as bs : List α} (h : as.Perm bs)
    (hkey : ∀ a ∈ as, ∀ b ∈ as, key a = key b → a = b) (taken : List κ) :
    (fresh key taken as).Perm (fresh key taken bs) := by
  refine (List.perm_ext_iff_of_nodup (nodup_keys_fresh key taken as).of_map
    (nodup_keys_fresh key taken bs).of_map).mpr fun a => ?_
  have hkey' : ∀ a ∈ bs, ∀ b ∈ bs, key a = key b → a = b := fun a ha b hb =>
    hkey a (h.mem_iff.mpr ha) b (h.mem_iff.mpr hb)
  rw [mem_fresh_iff hkey, mem_fresh_iff hkey', h.mem_iff]

/-- What is kept may be chosen from before or after, if items under one key are chosen alike. -/
theorem filter_fresh {key : α → κ} {taken : List κ} {as : List α} {p : α → Bool}
    (h : ∀ a ∈ as, ∀ b ∈ as, key a = key b → p a = p b) :
    (fresh key taken as).filter p = fresh key taken (as.filter p) := by
  induction as generalizing taken with
  | nil => rfl
  | cons a as ih =>
    have hrest : ∀ b ∈ as, ∀ c ∈ as, key b = key c → p b = p c := fun b hb c hc =>
      h b (List.mem_cons_of_mem a hb) c (List.mem_cons_of_mem a hc)
    by_cases hp : p a = true
    · rw [List.filter_cons_of_pos hp, fresh, fresh]
      split
      · exact ih hrest
      · rw [List.filter_cons_of_pos hp, ih hrest]
    · rw [List.filter_cons_of_neg hp, fresh]
      split
      · exact ih hrest
      · -- no chosen item has the key that was taken here
        have hother : ∀ b ∈ as.filter p, key b ∉ [key a] := by
          intro b hb hmem
          obtain ⟨hb, hpb⟩ := List.mem_filter.mp hb
          exact hp ((h b (List.mem_cons_of_mem a hb) a List.mem_cons_self
            (List.mem_singleton.mp hmem)).symm.trans hpb)
        rw [List.filter_cons_of_neg hp, ih hrest]
        refine (fresh_congr (fun k => ?_) _).trans (fresh_append_left hother)
        rw [List.mem_cons, List.mem_append, List.mem_singleton, or_comm]

/-! ### Items under one key -/

/-- If equal keys mean equal items, the items under a key do not depend on the order. -/
theorem filter_eq_of_perm {key : α → κ} {as bs : List α} (h : as.Perm bs)
    (hkey : ∀ a ∈ as, ∀ b ∈ as, key a = key b → a = b) (k : κ) :
    as.filter (key · = k) = bs.filter (key · = k) := by
  have hperm := h.filter (key · = k)
  cases hfilter : as.filter (key · = k) with
  | nil =>
    rw [hfilter] at hperm
    exact hperm.nil_eq
  | cons a rest =>
    -- whatever has the key is the first item that has it
    have hall : ∀ b ∈ a :: rest, b = a := by
      intro b hb
      have ha : a ∈ as.filter (key · = k) := hfilter ▸ List.mem_cons_self
      rw [← hfilter] at hb
      obtain ⟨hbs, hbk⟩ := List.mem_filter.mp hb
      obtain ⟨has, hak⟩ := List.mem_filter.mp ha
      exact hkey b hbs a has ((of_decide_eq_true hbk).trans (of_decide_eq_true hak).symm)
    rw [hfilter, List.eq_replicate_of_mem hall] at hperm
    rw [List.eq_replicate_of_mem hall]
    exact (List.perm_replicate.mp hperm.symm).symm

/-- If keys are different, an item is the only one under its key. -/
theorem filter_key_eq_singleton {key : α → κ} {as : List α} (h : (as.map key).Nodup) {a : α}
    (ha : a ∈ as) : as.filter (key · = key a) = [a] := by
  have hall : ∀ b ∈ as.filter (key · = key a), b = a := by
    intro b hb
    obtain ⟨hmem, hkey⟩ := List.mem_filter.mp hb
    exact List.inj_on_of_nodup_map h hmem ha (of_decide_eq_true hkey)
  have hmem : a ∈ as.filter (key · = key a) := List.mem_filter.mpr ⟨ha, decide_eq_true rfl⟩
  have hnodup : (as.filter (key · = key a)).Nodup := h.of_map.filter _
  exact List.perm_singleton.mp
    ((List.perm_ext_iff_of_nodup hnodup (List.nodup_singleton a)).mpr fun b =>
      ⟨fun hb => List.mem_singleton.mpr (hall b hb), fun hb => List.mem_singleton.mp hb ▸ hmem⟩)

/-- Items may be listed key by key. -/
theorem flatMap_filter_perm {key : α → κ} {ks : List κ} {as : List α} (hks : ks.Nodup)
    (h : ∀ a ∈ as, key a ∈ ks) : (ks.flatMap fun k => as.filter (key · = k)).Perm as := by
  induction ks generalizing as with
  | nil =>
    obtain rfl := List.eq_nil_iff_forall_not_mem.mpr fun a ha => List.not_mem_nil (h a ha)
    exact .refl _
  | cons k ks ih =>
    obtain ⟨hk, hks⟩ := List.nodup_cons.mp hks
    have hothers : ∀ a ∈ as.filter fun a => !decide (key a = k), key a ∈ ks := by
      intro a ha
      obtain ⟨ha, hne⟩ := List.mem_filter.mp ha
      rcases List.mem_cons.mp (h a ha) with heq | hmem
      · simp [heq] at hne
      · exact hmem
    have hrest : ks.flatMap (fun k' => as.filter (key · = k')) =
        ks.flatMap fun k' => (as.filter fun a => !decide (key a = k)).filter (key · = k') := by
      refine List.flatMap_congr fun k' hk' => ?_
      rw [List.filter_filter]
      refine List.filter_congr fun a _ => ?_
      by_cases ha : key a = k'
      · have hne : key a ≠ k := fun heq => hk (heq ▸ ha ▸ hk')
        simp [ha, ha ▸ hne]
      · simp [ha]
    rw [List.flatMap_cons, hrest]
    exact ((ih hks hothers).append_left _).trans (List.filter_append_perm _ as)

/-- If each group has one key, the items under a key are those of the groups that have it. -/
theorem filter_flatMap_eq {key : α → κ} {groups : List β} {f : β → List α} {label : β → κ}
    (h : ∀ x ∈ groups, ∀ a ∈ f x, key a = label x) (k : κ) :
    (groups.flatMap f).filter (key · = k) = (groups.filter (label · = k)).flatMap f := by
  induction groups with
  | nil => rfl
  | cons x groups ih =>
    have hrest := ih fun y hy => h y (List.mem_cons_of_mem x hy)
    have hx := h x List.mem_cons_self
    rw [List.flatMap_cons, List.filter_append, hrest, List.filter_cons]
    by_cases hk : label x = k
    · have hself : (f x).filter (key · = k) = f x :=
        List.filter_eq_self.mpr fun a ha => decide_eq_true ((hx a ha).trans hk)
      rw [hself, if_pos (decide_eq_true hk), List.flatMap_cons]
    · have hnil : (f x).filter (key · = k) = [] :=
        List.filter_eq_nil_iff.mpr fun a ha heq => hk ((hx a ha).symm.trans (of_decide_eq_true heq))
      rw [hnil, if_neg (by simpa using hk), List.nil_append]

/-! ### Folds -/

/-- What holds at first, and is kept by each item with those before it, holds in the end. -/
theorem foldl_prefix_induction {f : β → α → β} {P : List α → β → Prop} {b : β} {as : List α}
    (hstart : P [] b)
    (hstep : ∀ before, ∀ a ∈ as, ∀ b, P before b → P (before ++ [a]) (f b a)) :
    P as (as.foldl f b) := by
  induction as using List.reverseRecOn with
  | nil => exact hstart
  | append_singleton as a ih =>
    rw [List.foldl_concat]
    refine hstep as a (by simp) _ (ih fun before a' ha' => ?_)
    exact hstep before a' (List.mem_append_left _ ha')

end CodeGraph
