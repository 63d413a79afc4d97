/-!
# Maps that remember insertion order

An association list in which every key occurs once. A key keeps the place of its first insertion
when its value is replaced, so listing the map shows the order in which keys appeared.

## Main definitions

* `OrderedMap.get?`, `OrderedMap.contains`: look-up.
* `OrderedMap.insert`: the new value at the old place, or at the end.
* `OrderedMap.insertNew`: insertion that leaves an existing value alone.
* `OrderedMap.toList`: the entries in insertion order.

## Main results

* `OrderedMap.get?_insert`, `OrderedMap.keys_insert`: what insertion does to look-up and listing.
* `OrderedMap.nodup_keys_insert`: insertion keeps the keys distinct.
-/

namespace CodeGraph

/-- A finite map listed in insertion order. -/
structure OrderedMap (κ ν : Type) where
  entries : List (κ × ν)
deriving DecidableEq, Repr

namespace OrderedMap

variable {κ ν : Type}

/-- The map without entries. -/
def empty : OrderedMap κ ν :=
  ⟨[]⟩

instance : EmptyCollection (OrderedMap κ ν) :=
  ⟨empty⟩

instance : Inhabited (OrderedMap κ ν) :=
  ⟨empty⟩

/-- The entries in insertion order. -/
def toList (m : OrderedMap κ ν) : List (κ × ν) :=
  m.entries

/-- The keys in insertion order. -/
def keys (m : OrderedMap κ ν) : List κ :=
  m.entries.map Prod.fst

/-- The values in the order of their keys. -/
def values (m : OrderedMap κ ν) : List ν :=
  m.entries.map Prod.snd

/-- Number of keys. -/
def size (m : OrderedMap κ ν) : Nat :=
  m.entries.length

variable [DecidableEq κ]

/-- The value of a key. -/
def get? (m : OrderedMap κ ν) (k : κ) : Option ν :=
  m.entries.lookup k

/-- The value of a key, or a default. -/
def getD (m : OrderedMap κ ν) (k : κ) (default : ν) : ν :=
  (m.get? k).getD default

/-- Whether a key has a value. -/
def contains (m : OrderedMap κ ν) (k : κ) : Bool :=
  (m.get? k).isSome

/-- Give a key a value, at its old place if it has one, else at the end. -/
def insert (m : OrderedMap κ ν) (k : κ) (v : ν) : OrderedMap κ ν :=
  if m.contains k then ⟨m.entries.map fun e => if e.1 = k then (k, v) else e⟩
  else ⟨m.entries ++ [(k, v)]⟩

/-- Give a key a value unless it has one. -/
def insertNew (m : OrderedMap κ ν) (k : κ) (v : ν) : OrderedMap κ ν :=
  if m.contains k then m else ⟨m.entries ++ [(k, v)]⟩

/-- Replace the value of a key by a function of it, starting from a default. -/
def alter (m : OrderedMap κ ν) (k : κ) (default : ν) (f : ν → ν) : OrderedMap κ ν :=
  m.insert k (f (m.getD k default))

/-- Remove a key. -/
def erase (m : OrderedMap κ ν) (k : κ) : OrderedMap κ ν :=
  ⟨m.entries.filter fun e => e.1 ≠ k⟩

/-- Insert entries one after the other. -/
def insertAll (m : OrderedMap κ ν) (es : List (κ × ν)) : OrderedMap κ ν :=
  es.foldl (fun m e => m.insert e.1 e.2) m

/-- The map of a list of entries; the last value of a repeated key stands at its first place. -/
def ofList (es : List (κ × ν)) : OrderedMap κ ν :=
  empty.insertAll es

/-- Count an occurrence of a key. -/
def increment (m : OrderedMap κ Nat) (k : κ) : OrderedMap κ Nat :=
  m.alter k 0 (· + 1)

/-- How often each key occurs in a list, in order of first occurrence. -/
def tally (ks : List κ) : OrderedMap κ Nat :=
  ks.foldl increment empty

/-! ### Look-up after insertion -/

@[simp]
theorem get?_empty (k : κ) : (empty : OrderedMap κ ν).get? k = none :=
  rfl

/-- A key is found exactly if it is listed. -/
theorem contains_iff_mem_keys (m : OrderedMap κ ν) (k : κ) : m.contains k = true ↔ k ∈ m.keys := by
  obtain ⟨es⟩ := m
  simp only [contains, get?, keys]
  induction es with
  | nil => simp
  | cons e es ih =>
    rw [List.lookup_cons, List.map_cons, List.mem_cons]
    cases h : k == e.1 <;> simp_all

/-- Replacing the value of a listed key at its place. -/
theorem lookup_replace (es : List (κ × ν)) (k k' : κ) (v : ν) :
    (es.map fun e => if e.1 = k then (k, v) else e).lookup k' =
      if k' = k then (es.lookup k).map fun _ => v else es.lookup k' := by
  induction es with
  | nil => simp
  | cons e es ih =>
    rw [List.map_cons, List.lookup_cons, ih, List.lookup_cons, List.lookup_cons]
    by_cases h : e.1 = k
    · subst h
      by_cases h' : k' = e.1
      · simp [h']
      · simp [h', beq_false_of_ne h']
    · by_cases h' : k' = k
      · subst h'
        simp [h, beq_false_of_ne (Ne.symm h)]
      · simp [h, h']

/-- The inserted key has the new value, every other key its old one. -/
theorem get?_insert (m : OrderedMap κ ν) (k k' : κ) (v : ν) :
    (m.insert k v).get? k' = if k' = k then some v else m.get? k' := by
  unfold insert
  by_cases h : m.contains k = true
  · obtain ⟨w, hw⟩ := Option.isSome_iff_exists.mp h
    simp only [get?] at hw
    simp [h, get?, lookup_replace, hw]
  · have hn : m.entries.lookup k = none := Option.not_isSome_iff_eq_none.mp h
    by_cases h' : k' = k
    · subst h'; simp [h, get?, List.lookup_append, hn]
    · have hb : (k' == k) = false := beq_false_of_ne h'
      simp [h, h', hb, get?, List.lookup_append, List.lookup_cons]

/-- A new key is listed last, and a known one stays where it is. -/
theorem keys_insert (m : OrderedMap κ ν) (k : κ) (v : ν) :
    (m.insert k v).keys = if m.contains k then m.keys else m.keys ++ [k] := by
  unfold insert
  split
  · simp only [keys, List.map_map]
    refine List.map_congr_left fun e _ => ?_
    by_cases h : e.1 = k <;> simp [h]
  · simp [keys]

/-- Insertion keeps the keys distinct. -/
theorem nodup_keys_insert {m : OrderedMap κ ν} (h : m.keys.Nodup) (k : κ) (v : ν) :
    (m.insert k v).keys.Nodup := by
  rw [keys_insert]
  split
  · exact h
  · next hk =>
    rw [contains_iff_mem_keys] at hk
    exact List.nodup_append.mpr ⟨h, by simp, fun a ha b hb => by
      rw [List.mem_singleton.mp hb]
      exact fun heq => hk (heq ▸ ha)⟩

end OrderedMap

end CodeGraph
