import CodeGraph.Cache
import CodeGraph.Proofs.OrderedMap

/-!
# What caches hold

A cache only returns what was put into it. A property that every stored parse result has when it is
stored is therefore a property of everything that is found later, whatever was evicted in between.

## Main definitions

* `Cache.Region.All`: all values of a region have a property of their keys.
* `Cache.Sound`: all parse results have a property, and grammars stand under their names.

## Main results

* `Cache.Region.All.get`, `Cache.Region.All.put`: a region keeps a property of its values.
* `Cache.Sound.getOrParse`: a result is found or made, and has the property.
* `Cache.Sound.grammar`, `Cache.Sound.compileAll`, `Cache.Sound.relieveTo`: the other operations.
-/

namespace CodeGraph.Cache

/-! ### Regions -/

namespace Region

variable {κ ν : Type} {P : κ → ν → Prop} {r r' : Region κ ν}

/-- All values of a region have a property of their keys. -/
def All (P : κ → ν → Prop) (r : Region κ ν) : Prop :=
  ∀ e ∈ r.store.toList, ∀ v, e.2 = some v → P e.1 v

/-- Fewer entries have the property too. -/
theorem All.of_subset (h : r.All P) (hsub : ∀ e ∈ r'.store.toList, e ∈ r.store.toList) :
    r'.All P :=
  fun e he v hv => h e (hsub e he) v hv

/-- A region without entries has every property. -/
theorem All.clear (r : Region κ ν) : r.clear.All P := by
  intro e he
  cases he

variable [DecidableEq κ]

/-- Eviction only drops entries. -/
theorem mem_of_mem_dropOldest {maxEntries : Int} {maxBytes : Option Int}
    {es : List (κ × Option ν)} {ledger : Ledger κ} {e : κ × Option ν}
    (h : e ∈ (dropOldest maxEntries maxBytes es ledger).1) : e ∈ es := by
  induction es generalizing ledger with
  | nil => exact h
  | cons x es ih =>
    unfold dropOldest at h
    split at h
    · exact List.mem_cons_of_mem x (ih h)
    · exact h

/-- Eviction keeps a property of all values. -/
theorem All.evict (h : r.All P) (budget : Option Int) : (r.evict budget).1.All P :=
  h.of_subset fun _ he => mem_of_mem_dropOldest he

/-- A value that is found stands under the key that was looked for. -/
theorem mem_of_peek?_eq_some {key : κ} {v : ν} (h : r.peek? key = some v) :
    (key, some v) ∈ r.store.toList :=
  OrderedMap.mem_toList_of_get? (Option.join_eq_some_iff.mp h)

/-- The refreshed key stands last, and the others where they were. -/
theorem toList_refresh (r : Region κ ν) (key : κ) (value : Option ν) :
    (r.refresh key value).toList = r.store.toList.filter (·.1 ≠ key) ++ [(key, value)] := by
  have hnew : ¬(r.store.erase key).contains key = true := by
    rw [OrderedMap.contains_iff_mem_keys]
    simp [OrderedMap.erase, OrderedMap.keys]
  rw [refresh, OrderedMap.insert, if_neg hnew]
  rfl

/-- Only values with the property are stored. -/
theorem All.refresh (h : r.All P) {key : κ} {value : Option ν}
    (hvalue : ∀ v, value = some v → P key v) (hstore : r'.store = r.refresh key value) :
    r'.All P := by
  intro e he v hv
  rw [hstore, toList_refresh] at he
  rcases List.mem_append.mp he with he | he
  · exact h e (List.mem_of_mem_filter he) v hv
  · obtain rfl := List.mem_singleton.mp he
    exact hvalue v hv

/-- What is found has the property. -/
theorem All.of_peek? (h : r.All P) {key : κ} {v : ν} (hv : r.peek? key = some v) : P key v :=
  h _ (mem_of_peek?_eq_some hv) v rfl

/-- Look-up keeps a property of all values. -/
theorem All.get (h : r.All P) (key : κ) (counted : Bool) : (r.get key counted).2.All P := by
  unfold Region.get
  split
  · next v hv =>
    exact h.refresh (fun w hw => Option.some.inj hw ▸ h.of_peek? hv) rfl
  · exact h.of_subset fun _ he => he

/-- What a look-up finds has the property. -/
theorem All.of_get (h : r.All P) {key : κ} {counted : Bool} {v : ν}
    (hv : (r.get key counted).1 = some v) : P key v := by
  unfold Region.get at hv
  split at hv
  · next w hw =>
    obtain rfl : w = v := Option.some.inj hv
    exact h.of_peek? hw
  · cases hv

/-- Storing a value with the property keeps it. -/
theorem All.put (h : r.All P) {key : κ} {v : ν} (hv : P key v) (size : Int) :
    (r.put key v size).All P := by
  have hinsert : (r.insertEntry key (some v) size).All P :=
    h.refresh (fun w hw => Option.some.inj hw ▸ hv) rfl
  exact hinsert.evict _

/-- A change of values that respects the property keeps it. -/
theorem All.modify (h : r.All P) (key : κ) {f : ν → ν} (hf : ∀ k v, P k v → P k (f v)) :
    (r.modify key f).All P := by
  intro e he v hv
  obtain ⟨e₀, he₀, rfl⟩ := List.mem_map.mp he
  split at hv
  · next hkey =>
    obtain ⟨v₀, hv₀, rfl⟩ := Option.map_eq_some_iff.mp hv
    rw [if_pos hkey]
    exact hf _ _ (h e₀ he₀ v₀ hv₀)
  · next hkey =>
    rw [if_neg hkey]
    exact h e₀ he₀ v hv

end Region

/-! ### Parse results -/

/-- A property of parse results that fixes the version they belong to. -/
structure Faithful (P : Source → ParsedFile → Prop) : Prop where
  path : ∀ key f, P key f → f.filePath = key.path
  contentHash : ∀ key f, P key f → f.contentHash = key.contentHash

namespace Files

variable {P : Source → ParsedFile → Prop} {c : Files}

/-- All stored results stand under their version, with their digest, and have a property. -/
def Sound (P : Source → ParsedFile → Prop) (c : Files) : Prop :=
  c.region.All fun key e =>
    e.source = key ∧ (c.verify = true → e.checksum = checksum e.parsed) ∧ P key e.parsed

/-- A look-up finds nothing or a result with the property, and is never a corruption. -/
theorem Sound.get (h : c.Sound P) (hP : Faithful P) (key : Source) :
    ∃ found c', c.get key = (.ok found, c') ∧ c'.Sound P ∧ c'.lowWater = c.lowWater
      ∧ c'.verify = c.verify ∧ ∀ f, found = some f → P key f := by
  rcases hlook : c.region.get key with ⟨found, region⟩
  have hregion := Region.All.get h key true
  have hfound : ∀ e, found = some e → _ := fun e he =>
    Region.All.of_get h (show (c.region.get key true).1 = some e by rw [hlook, he])
  rw [hlook] at hregion
  simp only [Files.get, hlook]
  cases found with
  | none => exact ⟨none, _, rfl, hregion, rfl, rfl, fun f hf => by cases hf⟩
  | some e =>
    obtain ⟨hsource, hsum, hPe⟩ := hfound e rfl
    have hclean : c.corruption? key e = none := by
      have hpath := hP.path key e.parsed hPe
      have hhash := hP.contentHash key e.parsed hPe
      by_cases hv : c.verify = true
      · simp [corruption?, hsource, hpath, hhash, hsum hv]
      · simp [corruption?, hsource, hpath, hhash, hv]
    simp only [hclean]
    refine ⟨some e.parsed, _, rfl, hregion, rfl, rfl, fun f hf => ?_⟩
    rw [← Option.some.inj hf]
    exact hPe

/-- Storing a result with the property keeps it. -/
theorem Sound.put (h : c.Sound P) {key : Source} {f : ParsedFile} (hf : P key f)
    (tree : Option SyntaxTree) : (c.put key f tree).Sound P := by
  unfold Files.put
  refine Region.All.put h ?_ (entrySize f)
  refine ⟨rfl, fun hv => ?_, hf⟩
  dsimp only at hv ⊢
  rw [if_pos hv]

/-- A result is found, or made and stored; only making it can fail. -/
theorem Sound.getOrParse (h : c.Sound P) (hP : Faithful P) {ε : Type} (key : Source)
    (parse : Unit → Except ε (ParsedFile × Option SyntaxTree))
    (hnew : ∀ f tree, parse () = .ok (f, tree) → P key f) :
    ∃ r c', c.getOrParse key parse = (r, c') ∧ c'.Sound P ∧ c'.lowWater = c.lowWater ∧
      ((∃ f, P key f ∧ r = .ok (f, true)) ∨
        (∃ f tree, parse () = .ok (f, tree) ∧ r = .ok (f, false)) ∨
        ∃ err, parse () = .error err ∧ r = .error (.parse err)) := by
  obtain ⟨found, c', hget, hsound, hwater, -, hfound⟩ := h.get hP key
  unfold Files.getOrParse
  rw [hget]
  cases found with
  | some f => exact ⟨_, c', rfl, hsound, hwater, .inl ⟨f, hfound f rfl, rfl⟩⟩
  | none =>
    cases hparse : parse () with
    | error err => exact ⟨_, c', rfl, hsound, hwater, .inr (.inr ⟨err, rfl, rfl⟩)⟩
    | ok made =>
      obtain ⟨f, tree⟩ := made
      exact ⟨_, _, rfl, hsound.put (hnew f tree hparse) tree, hwater,
        .inr (.inl ⟨f, tree, rfl, rfl⟩)⟩

end Files

/-! ### Caches -/

/-- All parse results have a property, and every grammar stands under the name of its language. -/
structure Sound (P : Source → ParsedFile → Prop) (c : Cache) : Prop where
  files : c.files.Sound P
  grammars : c.queries.grammars.All fun name g => Language.ofName? name = some g.language

namespace Sound

variable {P : Source → ParsedFile → Prop} {c : Cache}

/-- An empty cache is sound. -/
protected theorem empty (maxEntries maxBytes maxQueries maxGrammars : Int) (verify : Bool) :
    (Cache.empty maxEntries maxBytes maxQueries maxGrammars verify).Sound P := by
  constructor
  · intro e he
    cases he
  · intro e he
    cases he

/-- A grammar that is found or loaded is that of its language. -/
theorem grammar (h : c.Sound P) (language : String) :
    ∃ g queries, c.queries.grammar language = (g, queries) ∧
      g.map Grammar.language = Language.ofName? language ∧
      ({ c with queries } : Cache).Sound P := by
  rcases hlook : c.queries.grammars.get language with ⟨found, region⟩
  have hregion := h.grammars.get language true
  have hfound : ∀ g, found = some g → Language.ofName? language = some g.language := fun g hg =>
    h.grammars.of_get (show (c.queries.grammars.get language true).1 = some g by rw [hlook, hg])
  rw [hlook] at hregion
  simp only [Queries.grammar, hlook]
  cases found with
  | some g => exact ⟨some g, _, rfl, (hfound g rfl).symm, h.files, hregion⟩
  | none =>
    cases hname : Language.ofName? language with
    | none => exact ⟨none, _, rfl, rfl, h.files, hregion⟩
    | some l => exact ⟨some { language := l }, _, rfl, rfl, h.files, hregion.put hname 0⟩

/-- Compiling queries keeps a cache sound. -/
theorem compileAll (h : c.Sound P) (broken : List BrokenQuery) (l : Language) :
    ({ c with queries := c.queries.compileAll broken l } : Cache).Sound P := by
  have hstep : ∀ (queries : Queries) (q : QueryName),
      queries.grammars.All (fun name g => Language.ofName? name = some g.language) →
      (queries.compile broken l q).2.grammars.All fun name g =>
        Language.ofName? name = some g.language := by
    intro queries q hq
    have hfind : (queries.find l q).2.grammars = queries.grammars := by
      unfold Queries.find
      split <;> rfl
    unfold Queries.compile
    split
    · exact hq
    split
    · exact hq
    dsimp only
    split
    · exact hfind ▸ hq
    split
    · unfold Queries.keep
      split <;> exact hfind ▸ hq
    · unfold Queries.markFailed
      exact Region.All.modify (hfind ▸ hq) l.name fun _ _ hg => hg
  refine ⟨h.files, List.foldlRecOn (motive := fun queries : Queries => queries.grammars.All _) _ _
    h.grammars fun queries hq q _ => hstep queries q hq⟩

/-- Releasing memory keeps a cache sound. -/
theorem relieveTo (h : c.Sound P) (lowWater : Int) : (c.relieveTo lowWater).1.Sound P := by
  unfold Cache.relieveTo
  split
  · exact ⟨Region.All.evict h.files _, h.grammars⟩
  · exact h

end Sound

/-- Releasing memory does not move the low-water mark. -/
theorem lowWater_relieveTo (c : Cache) (lowWater : Int) :
    (c.relieveTo lowWater).1.files.lowWater = c.files.lowWater := by
  unfold relieveTo
  split <;> rfl

end CodeGraph.Cache
