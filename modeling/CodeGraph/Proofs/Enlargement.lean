import CodeGraph.Proofs.Histories

/-!
# Caches with larger bounds

A cache that is asked for versions of files parses what it does not hold. If parsing is a function
of the version, a cache with larger bounds holds everything that one with smaller bounds does, with
only older results besides: it never parses what the smaller one still has.

## Main definitions

* `Cache.Call`: a request for a version, or to forget a path.
* `Cache.Covers`: one cache holds another one's results as its most recent ones.

## Main results

* `Cache.Round.suffix`: a round of eviction down to larger bounds leaves more.
* `Cache.Covers.fetch`, `Cache.Covers.forget`: what one call preserves.
* `Cache.larger_covers`: two caches after the same calls.
-/

namespace CodeGraph.Cache

variable {ε : Type} {κ ν : Type} {n₁ n₂ b₁ b₂ : Int}

/-! ### Rounds down to larger bounds -/

/-- Entries within some bounds are within larger ones. -/
theorem Within.mono {sizeOf : ν → Int} {es : List (κ × Option ν)} (hn : n₁ ≤ n₂) (hb : b₁ ≤ b₂)
    (h : Within n₁ (some b₁) sizeOf es) : Within n₂ (some b₂) sizeOf es := by
  obtain ⟨hcount, htotal⟩ := h
  refine ⟨by omega, fun b hb' => ?_⟩
  obtain rfl := Option.some.inj hb'
  exact (htotal b₁ rfl).imp_left fun hle => Int.le_trans hle hb

/-- Of more entries, a round of eviction down to larger bounds leaves more. -/
theorem Round.suffix {sizeOf : ν → Int} {es₁ es₂ kept₁ kept₂ : List (κ × Option ν)} {d₁ d₂ : Nat}
    (hn : n₁ ≤ n₂) (hb : b₁ ≤ b₂) (h₁ : Round n₁ (some b₁) sizeOf es₁ kept₁ d₁)
    (h₂ : Round n₂ (some b₂) sizeOf es₂ kept₂ d₂) (hes : es₁ <:+ es₂) : kept₁ <:+ kept₂ := by
  obtain ⟨older, holder⟩ : kept₁ <:+ es₂ :=
    (h₁.eq_drop ▸ List.drop_suffix d₁ es₁ : kept₁ <:+ es₁).trans hes
  have hkept : es₂.drop older.length = kept₁ := by
    rw [← holder, List.drop_left]
  -- what the first round leaves is within the larger bounds, so the second one stops before it
  have hstop : d₂ ≤ older.length := by
    by_contra hlater
    refine h₂.shortest older.length (by omega) ?_
    rw [hkept]
    exact h₁.within.mono hn hb
  rw [h₂.eq_drop, ← hkept]
  exact List.drop_suffix_drop_left es₂ hstop

/-! ### Stores after a call -/

namespace Region

variable [DecidableEq κ] {r : Region κ ν} {key : κ}

/-- A key that is found comes last. -/
theorem toList_get_of_some {v : ν} (h : r.peek? key = some v) :
    (r.get key).2.store.toList = r.store.toList.filter (·.1 ≠ key) ++ [(key, some v)] := by
  simp only [get, h]
  exact r.toList_refresh key (some v)

/-- A key that is not found changes no entry. -/
theorem toList_get_of_none (h : r.peek? key = none) :
    (r.get key).2.store.toList = r.store.toList := by
  simp only [get, h]

/-- A counted look-up is a miss exactly if it finds nothing. -/
theorem misses_get (r : Region κ ν) (key : κ) :
    (r.get key).2.misses = r.misses + if (r.peek? key).isNone then 1 else 0 := by
  unfold get
  cases r.peek? key <;> rfl

/-- Removing keys leaves the entries of the others. -/
theorem toList_foldl_pop (keys : List κ) (r : Region κ ν) :
    (keys.foldl (fun r key => (r.pop key).2) r).store.toList =
      r.store.toList.filter (·.1 ∉ keys) := by
  induction keys generalizing r with
  | nil => exact (List.filter_eq_self.mpr fun _ _ => by simp).symm
  | cons key keys ih =>
    have hpop : (r.pop key).2.store.toList = r.store.toList.filter (·.1 ≠ key) := by
      unfold pop
      cases r.peek? key <;> rfl
    rw [List.foldl_cons, ih, hpop, List.filter_filter]
    refine List.filter_congr fun e _ => ?_
    simp [Bool.and_comm]

/-- Removing keys is no look-up. -/
theorem misses_foldl_pop (keys : List κ) (r : Region κ ν) :
    (keys.foldl (fun r key => (r.pop key).2) r).misses = r.misses := by
  induction keys generalizing r with
  | nil => rfl
  | cons key keys ih =>
    rw [List.foldl_cons, ih]
    unfold pop
    cases r.peek? key <;> rfl

end Region

namespace Files

/-- Forgetting a path leaves the versions of the others, in order. -/
theorem toList_evict (c : Files) (path : String) :
    (c.evict path).region.store.toList =
      c.region.store.toList.filter (·.1.path ≠ path) := by
  rw [evict, Region.toList_foldl_pop]
  refine List.filter_congr fun e he => ?_
  have hkey : e.1 ∈ c.region.keys := List.mem_map_of_mem he
  simp [hkey]

namespace Managed

variable {maxEntries maxBytes : Int} {verify : Bool} {c : Files}

/-- A look-up keeps to the books. -/
theorem get (h : c.Managed maxEntries maxBytes verify) (key : Source) :
    ({ c with region := (c.region.get key).2 } : Files).Managed maxEntries maxBytes verify :=
  h.foldl_after [.get key true]

/-- Forgetting a path keeps to the books. -/
theorem evict (h : c.Managed maxEntries maxBytes verify) (path : String) :
    (c.evict path).Managed maxEntries maxBytes verify := by
  have huses := h.foldl_after ((c.region.keys.filter (·.path = path)).map .pop)
  rwa [List.foldl_map] at huses

/-- An entry is found under its key. -/
theorem peek?_of_mem (h : c.Managed maxEntries maxBytes verify) {key : Source} {e : StoredFile}
    (hmem : (key, some e) ∈ c.region.store.toList) : c.region.peek? key = some e := by
  obtain ⟨seen, hkept⟩ := h.kept
  rw [Region.peek?, OrderedMap.get?_of_mem_toList hkept.records.nodup hmem, Option.join_some]

/-- Storing a result ends in a round of eviction. -/
theorem round_put (h : c.Managed maxEntries maxBytes verify) (key : Source) (f : ParsedFile)
    (tree : Option SyntaxTree) :
    ∃ dropped, Round maxEntries (some maxBytes) StoredFile.size
      (c.region.store.toList.filter (·.1 ≠ key) ++ [(key, some (.of verify key f tree))])
      (c.put key f tree).region.store.toList dropped := by
  obtain ⟨seen, hkept⟩ := h.kept
  have hput : (c.put key f tree).region = ((c.region.insertEntry key
      (some (.of verify key f tree)) (StoredFile.of verify key f tree).size).evict
        (some maxBytes)).1 := by
    rw [Files.put_eq, h.verify, ← h.maxBytes]
    rfl
  obtain ⟨-, hround, -⟩ := (hkept.insertEntry key (.of verify key f tree)).evict (some maxBytes)
  rw [hput, ← h.maxEntries, ← Region.toList_refresh]
  exact ⟨_, hround⟩

end Managed

end Files

/-! ### Calls -/

/-- A call on a cache: a version is asked for, or a path is to be forgotten. -/
inductive Call where
  | fetch (key : Source)
  | forget (path : String)
deriving DecidableEq, Repr, Inhabited

/-- The operation that a call stands for, where parsing is a function of the version. -/
def Call.operation (parse : Source → Except ε (ParsedFile × Option SyntaxTree)) :
    Call → Operation ε
  | fetch key => .getOrParse key fun _ => parse key
  | forget path => .evict path

/--
A cache within larger bounds holds the results of one within smaller bounds as its most recent ones,
all of them made by parsing their versions, and missed no more look-ups.
-/
structure Covers (parse : Source → Except ε (ParsedFile × Option SyntaxTree))
    (n₁ b₁ n₂ b₂ : Int) (verify : Bool) (small large : Files) : Prop where
  managed_small : small.Managed n₁ b₁ verify
  managed_large : large.Managed n₂ b₂ verify
  suffix : small.region.store.toList <:+ large.region.store.toList
  made : large.region.All fun key e =>
    ∃ f tree, parse key = .ok (f, tree) ∧ e = .of verify key f tree
  misses : large.region.misses ≤ small.region.misses

namespace Covers

variable {parse : Source → Except ε (ParsedFile × Option SyntaxTree)} {verify : Bool}
variable {small large : Files}

/-- What the smaller cache finds, the larger one finds. -/
theorem peek?_large (h : Covers parse n₁ b₁ n₂ b₂ verify small large) {key : Source}
    {e : StoredFile} (he : small.region.peek? key = some e) :
    large.region.peek? key = some e :=
  h.managed_large.peek?_of_mem (h.suffix.subset (Region.mem_of_peek?_eq_some he))

/-- Entries that are left out on both sides and one that comes last keep a suffix. -/
theorem suffix_append (h : Covers parse n₁ b₁ n₂ b₂ verify small large) (key : Source)
    (e : StoredFile) :
    small.region.store.toList.filter (·.1 ≠ key) ++ [(key, some e)] <:+
      large.region.store.toList.filter (·.1 ≠ key) ++ [(key, some e)] := by
  obtain ⟨older, holder⟩ := h.suffix.filter fun x => decide (x.1 ≠ key)
  rw [← holder]
  exact ⟨older, (List.append_assoc _ _ _).symm⟩

/-- Both caches find a version. -/
theorem fetch_of_some (h : Covers parse n₁ b₁ n₂ b₂ verify small large) {key : Source}
    {e : StoredFile} (he : small.region.peek? key = some e) :
    Covers parse n₁ b₁ n₂ b₂ verify { small with region := (small.region.get key).2 }
      { large with region := (large.region.get key).2 } where
  managed_small := h.managed_small.get key
  managed_large := h.managed_large.get key
  suffix := by
    rw [Region.toList_get_of_some he, Region.toList_get_of_some (h.peek?_large he)]
    exact h.suffix_append key e
  made := h.made.get key true
  misses := by
    rw [Region.misses_get, Region.misses_get, he, h.peek?_large he]
    exact h.misses

/-- Neither cache finds a version. -/
theorem fetch_of_none (h : Covers parse n₁ b₁ n₂ b₂ verify small large) {key : Source}
    (hsmall : small.region.peek? key = none) (hlarge : large.region.peek? key = none) :
    Covers parse n₁ b₁ n₂ b₂ verify { small with region := (small.region.get key).2 }
      { large with region := (large.region.get key).2 } where
  managed_small := h.managed_small.get key
  managed_large := h.managed_large.get key
  suffix := by
    rw [Region.toList_get_of_none hsmall, Region.toList_get_of_none hlarge]
    exact h.suffix
  made := h.made.get key true
  misses := by
    rw [Region.misses_get, Region.misses_get, hsmall, hlarge]
    exact Nat.add_le_add_right h.misses 1

/-- Both caches store what parsing gives. -/
theorem put (h : Covers parse n₁ b₁ n₂ b₂ verify small large) (hn : n₁ ≤ n₂) (hb : b₁ ≤ b₂)
    {key : Source} {f : ParsedFile} {tree : Option SyntaxTree}
    (hparse : parse key = .ok (f, tree)) :
    Covers parse n₁ b₁ n₂ b₂ verify (small.put key f tree) (large.put key f tree) where
  managed_small := h.managed_small.foldl_after [.put key (.of small.verify key f tree)]
  managed_large := h.managed_large.foldl_after [.put key (.of large.verify key f tree)]
  suffix := by
    obtain ⟨d₁, hround₁⟩ := h.managed_small.round_put key f tree
    obtain ⟨d₂, hround₂⟩ := h.managed_large.round_put key f tree
    exact hround₁.suffix hn hb hround₂ (h.suffix_append key _)
  made := h.made.put ⟨f, tree, hparse, congrArg (StoredFile.of · key f tree)
    h.managed_large.verify⟩ _
  misses := h.misses

/-- The larger cache finds a version that the smaller one parses again. -/
theorem put_small (h : Covers parse n₁ b₁ n₂ b₂ verify small large) {key : Source}
    {f : ParsedFile} {tree : Option SyntaxTree} (hsmall : small.region.peek? key = none)
    (hlarge : large.region.peek? key = some (.of verify key f tree)) :
    Covers parse n₁ b₁ n₂ b₂ verify
      (({ small with region := (small.region.get key).2 } : Files).put key f tree)
      { large with region := (large.region.get key).2 } where
  managed_small := (h.managed_small.get key).foldl_after [.put key (.of small.verify key f tree)]
  managed_large := h.managed_large.get key
  suffix := by
    obtain ⟨d, hround⟩ := (h.managed_small.get key).round_put key f tree
    rw [Region.toList_get_of_none hsmall] at hround
    rw [Region.toList_get_of_some hlarge, hround.eq_drop]
    exact (List.drop_suffix d _).trans (h.suffix_append key _)
  made := h.made.get key true
  misses := by
    have hsame : (large.region.get key).2.misses = large.region.misses := by
      rw [Region.misses_get, hlarge]
      rfl
    have hmore : (small.region.get key).2.misses = small.region.misses + 1 := by
      rw [Region.misses_get, hsmall]
      rfl
    exact (hsame.le.trans h.misses).trans (hmore ▸ Nat.le_succ _)

/-- Asking for a version. -/
theorem fetch (h : Covers parse n₁ b₁ n₂ b₂ verify small large) (hn : n₁ ≤ n₂) (hb : b₁ ≤ b₂)
    (key : Source) :
    Covers parse n₁ b₁ n₂ b₂ verify (small.getOrParse key fun _ => parse key).2
      (large.getOrParse key fun _ => parse key).2 := by
  cases hsmall : small.region.peek? key with
  | some e =>
    rw [Files.getOrParse_of_some hsmall, Files.getOrParse_of_some (h.peek?_large hsmall)]
    exact h.fetch_of_some hsmall
  | none =>
    rw [Files.getOrParse_of_none hsmall]
    cases hlarge : large.region.peek? key with
    | some e =>
      obtain ⟨f, tree, hparse, rfl⟩ := h.made.of_peek? hlarge
      rw [Files.getOrParse_of_some hlarge, hparse]
      exact h.put_small hsmall hlarge
    | none =>
      rw [Files.getOrParse_of_none hlarge]
      cases hparse : parse key with
      | error err => exact h.fetch_of_none hsmall hlarge
      | ok made => exact (h.fetch_of_none hsmall hlarge).put hn hb hparse

/-- Forgetting a path. -/
theorem forget (h : Covers parse n₁ b₁ n₂ b₂ verify small large) (path : String) :
    Covers parse n₁ b₁ n₂ b₂ verify (small.evict path) (large.evict path) where
  managed_small := h.managed_small.evict path
  managed_large := h.managed_large.evict path
  suffix := by
    rw [Files.toList_evict, Files.toList_evict]
    exact h.suffix.filter _
  made := h.made.foldl_pop _
  misses := by
    rw [Files.evict, Files.evict, Region.misses_foldl_pop, Region.misses_foldl_pop]
    exact h.misses

/-- What one call preserves. -/
theorem after {small large : Cache}
    (h : Covers parse n₁ b₁ n₂ b₂ verify small.files large.files) (hn : n₁ ≤ n₂) (hb : b₁ ≤ b₂)
    (call : Call) :
    Covers parse n₁ b₁ n₂ b₂ verify (small.after (call.operation parse)).files
      (large.after (call.operation parse)).files := by
  cases call with
  | fetch key => exact h.fetch hn hb key
  | forget path => exact h.forget path

/-- What a sequence of calls preserves. -/
theorem afterAll {small large : Cache}
    (h : Covers parse n₁ b₁ n₂ b₂ verify small.files large.files) (hn : n₁ ≤ n₂) (hb : b₁ ≤ b₂)
    (calls : List Call) :
    Covers parse n₁ b₁ n₂ b₂ verify (small.afterAll (calls.map (Call.operation parse))).files
      (large.afterAll (calls.map (Call.operation parse))).files := by
  induction calls generalizing small large with
  | nil => exact h
  | cons call calls ih => exact ih (h.after hn hb call)

/-- A result that the smaller cache answers with, the larger one answers with. -/
theorem getOrParse_large (h : Covers parse n₁ b₁ n₂ b₂ verify small large) {key : Source}
    {f : ParsedFile}
    (hhit : (small.getOrParse key fun _ => parse key).1 = .ok (f, true)) :
    (large.getOrParse key fun _ => parse key).1 = .ok (f, true) := by
  cases hpeek : small.region.peek? key with
  | none =>
    rw [Files.getOrParse_of_none hpeek] at hhit
    cases hparse : parse key with
    | error err =>
      rw [hparse] at hhit
      cases hhit
    | ok made =>
      rw [hparse] at hhit
      cases hhit
  | some e =>
    have hsame : large.corruption? key e = small.corruption? key e := by
      rw [Files.corruption?, Files.corruption?, h.managed_large.verify, h.managed_small.verify]
    rw [Files.getOrParse_of_some hpeek] at hhit
    rw [Files.getOrParse_of_some (h.peek?_large hpeek), hsame]
    exact hhit

end Covers

/--
Two caches are asked for the same versions and to forget the same paths, and parsing is a function
of the version. At every point, the results that are held within the smaller bounds are the most
recent ones of those that are held within the larger bounds. What the smaller cache answers without
parsing, the larger one does too, so it never parses more often.
-/
theorem larger_covers (parse : Source → Except ε (ParsedFile × Option SyntaxTree))
    {n₁ n₂ b₁ b₂ : Int} (hn : n₁ ≤ n₂) (hb : b₁ ≤ b₂) (maxQueries maxGrammars : Int)
    (verify : Bool) (calls : List Call) :
    let ops := calls.map (Call.operation parse)
    let small := ((Cache.empty n₁ b₁ maxQueries maxGrammars verify).afterAll ops).files
    let large := ((Cache.empty n₂ b₂ maxQueries maxGrammars verify).afterAll ops).files
    small.region.store.toList <:+ large.region.store.toList ∧
    (∀ key f, (small.getOrParse key fun _ => parse key).1 = .ok (f, true) →
      (large.getOrParse key fun _ => parse key).1 = .ok (f, true)) ∧
    large.region.misses ≤ small.region.misses := by
  intro ops small large
  have hstart : Covers parse n₁ b₁ n₂ b₂ verify
      (Cache.empty n₁ b₁ maxQueries maxGrammars verify).files
      (Cache.empty n₂ b₂ maxQueries maxGrammars verify).files :=
    ⟨.empty n₁ b₁ verify, .empty n₂ b₂ verify, List.suffix_refl _,
      fun _ he => absurd he List.not_mem_nil, Nat.le_refl _⟩
  have hcovers : Covers parse n₁ b₁ n₂ b₂ verify small large := hstart.afterAll hn hb calls
  exact ⟨hcovers.suffix, fun key f => hcovers.getOrParse_large, hcovers.misses⟩

/-- Every version can be parsed. -/
def parseAny (key : Source) : Except Unit (ParsedFile × Option SyntaxTree) :=
  .ok (resultIn key "python", none)

/-- Of two versions, a cache for one result holds the second, which a cache for two finds too. -/
theorem larger_covers_two :
    let ops := [Call.fetch ⟨"a.py", "1"⟩, .fetch ⟨"b.py", "2"⟩].map (Call.operation parseAny)
    let small := ((Cache.empty 1 100 10 10 false).afterAll ops).files
    let large := ((Cache.empty 2 100 10 10 false).afterAll ops).files
    small.region.keys = [⟨"b.py", "2"⟩] ∧ large.region.keys = [⟨"a.py", "1"⟩, ⟨"b.py", "2"⟩] ∧
    small.region.store.toList <:+ large.region.store.toList ∧
    (large.getOrParse ⟨"b.py", "2"⟩ fun _ => parseAny ⟨"b.py", "2"⟩).1 =
      .ok (resultIn ⟨"b.py", "2"⟩ "python", true) := by
  intro ops small large
  obtain ⟨hsuffix, hhits, -⟩ := larger_covers parseAny (show (1 : Int) ≤ 2 by decide)
    (Int.le_refl 100) 10 10 false [.fetch ⟨"a.py", "1"⟩, .fetch ⟨"b.py", "2"⟩]
  exact ⟨by decide, by decide, hsuffix, hhits _ _ rfl⟩

end CodeGraph.Cache
