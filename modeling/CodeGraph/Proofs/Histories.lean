import CodeGraph.Proofs.Recency

/-!
# Histories of the parse cache

A parse cache goes through look-ups, insertions, removals of a path, relief of memory pressure and
clearing. Whatever the history, if every stored result belongs to the version that it is stored
under, then a look-up is never a corruption, and what it finds is what was stored last.

## Main definitions

* `Cache.Operation`, `Cache.after`: the operations of a cache, and what they leave behind.
* `Cache.stored`: the results that a history stores, in order.
* `Cache.lastStored?`: the last of them under a key.

## Main results

* `Cache.Files.getOrParse_of_some`, `Cache.Files.getOrParse_of_none`: the two ways to a result.
* `Cache.exists_uses`: every operation is a sequence of uses of the region.
* `Cache.Recalls.after`: what one operation preserves.
* `Cache.lookup_recalls`: look-ups after every history.
-/

namespace CodeGraph.Cache

variable {ε : Type}

/-! ### Stored results -/

/-- The size that a stored result counts with. -/
def StoredFile.size (e : StoredFile) : Int :=
  entrySize e.parsed

/-- The entry of a result; only verified results have a digest. -/
def StoredFile.of (verify : Bool) (key : Source) (parsed : ParsedFile)
    (tree : Option SyntaxTree) : StoredFile :=
  { source := key, parsed, tree, checksum := if verify then Cache.checksum parsed else "" }

namespace Files

variable {c : Files} {key : Source}

/-- Storing a result uses the region once. -/
theorem put_eq (c : Files) (key : Source) (parsed : ParsedFile) (tree : Option SyntaxTree) :
    c.put key parsed tree = { c with
      region := c.region.after StoredFile.size (.put key (.of c.verify key parsed tree)) } :=
  rfl

/-- A look-up of a key that is there: only a corruption keeps its result back. -/
theorem get_of_some {e : StoredFile} (h : c.region.peek? key = some e) :
    c.get key = (match c.corruption? key e with
      | some fault => .error fault
      | none => .ok (some e.parsed), { c with region := (c.region.get key).2 }) := by
  simp only [get, Region.get, h]
  cases c.corruption? key e <;> rfl

/-- A look-up of a key that is not there. -/
theorem get_of_none (h : c.region.peek? key = none) :
    c.get key = (.ok none, { c with region := (c.region.get key).2 }) := by
  simp only [get, Region.get, h]

/-- A key that is there is not parsed again. -/
theorem getOrParse_of_some {e : StoredFile} (h : c.region.peek? key = some e)
    (parse : Unit → Except ε (ParsedFile × Option SyntaxTree)) :
    c.getOrParse key parse = (match c.corruption? key e with
      | some fault => .error (.corrupted fault)
      | none => .ok (e.parsed, true), { c with region := (c.region.get key).2 }) := by
  rewrite [getOrParse, get_of_some h]
  cases c.corruption? key e <;> rfl

/-- A key that is not there is parsed, and what that gives is stored. -/
theorem getOrParse_of_none (h : c.region.peek? key = none)
    (parse : Unit → Except ε (ParsedFile × Option SyntaxTree)) :
    c.getOrParse key parse = match parse () with
      | .error err => (.error (.parse err), { c with region := (c.region.get key).2 })
      | .ok (parsed, tree) => (.ok (parsed, false),
          ({ c with region := (c.region.get key).2 } : Files).put key parsed tree) := by
  rewrite [getOrParse, get_of_none h]
  cases parse () <;> rfl

end Files

/-! ### Operations -/

/-- An operation on a cache. -/
inductive Operation (ε : Type) where
  | get (key : Source)
  | put (key : Source) (parsed : ParsedFile) (tree : Option SyntaxTree)
  | getOrParse (key : Source) (parse : Unit → Except ε (ParsedFile × Option SyntaxTree))
  | evict (path : String)
  | relieve
  | clear

/--
What an operation leaves behind. Relief that fails, since the budget has no low-water mark, leaves
everything as it is.
-/
def after (c : Cache) : Operation ε → Cache
  | .get key => { c with files := (c.files.get key).2 }
  | .put key parsed tree => { c with files := c.files.put key parsed tree }
  | .getOrParse key parse => { c with files := (c.files.getOrParse key parse).2 }
  | .evict path => { c with files := c.files.evict path }
  | .relieve => (c.relieve?.map Prod.fst).getD c
  | .clear => c.clear

/-- What a sequence of operations leaves behind. -/
def afterAll (c : Cache) (ops : List (Operation ε)) : Cache :=
  ops.foldl after c

/-- The result that an operation stores, with its key: one that is put, or parsed anew. -/
def stored? (c : Cache) : Operation ε → Option (Source × ParsedFile)
  | .put key parsed _ => some (key, parsed)
  | .getOrParse key parse =>
    match (c.files.getOrParse key parse).1 with
    | .ok (parsed, false) => some (key, parsed)
    | _ => none
  | _ => none

/-- The results that a sequence of operations stores, in order. -/
def stored (c : Cache) : List (Operation ε) → List (Source × ParsedFile)
  | [] => []
  | op :: ops => (c.stored? op).toList ++ (c.after op).stored ops

/-- The last result that was stored under a key. -/
def lastStored? (log : List (Source × ParsedFile)) (key : Source) : Option ParsedFile :=
  log.reverse.lookup key

/-! ### Operations as uses of the region -/

/-- Relief evicts down to some mark, or changes no result. -/
theorem files_relieve? (c : Cache) :
    ((c.relieve?.map Prod.fst).getD c).files = c.files ∨
      ∃ mark, ((c.relieve?.map Prod.fst).getD c).files = (c.files.relieve mark).1 := by
  simp only [relieve?]
  cases c.files.lowWater with
  | none => exact .inl rfl
  | some mark =>
    simp only [Option.map_some, Option.getD_some, relieveTo]
    split
    · exact .inr ⟨mark, rfl⟩
    · exact .inl rfl

/-- Every operation is a sequence of uses of the region that holds the results. -/
theorem exists_uses (c : Cache) (op : Operation ε) :
    ∃ us : List (Use Source StoredFile), (c.after op).files =
      { c.files with region := us.foldl (Region.after StoredFile.size) c.files.region } := by
  cases op with
  | get key =>
    refine ⟨[.get key true], ?_⟩
    cases h : c.files.region.peek? key with
    | none => simp only [after, Files.get_of_none h, List.foldl_cons, List.foldl_nil, Region.after]
    | some e =>
      simp only [after, Files.get_of_some h, List.foldl_cons, List.foldl_nil, Region.after]
  | put key parsed tree => exact ⟨[.put key (.of c.files.verify key parsed tree)], rfl⟩
  | getOrParse key parse =>
    cases h : c.files.region.peek? key with
    | some e =>
      refine ⟨[.get key true], ?_⟩
      simp only [after, Files.getOrParse_of_some h, List.foldl_cons, List.foldl_nil, Region.after]
    | none =>
      cases hparse : parse () with
      | error err =>
        refine ⟨[.get key true], ?_⟩
        simp only [after, Files.getOrParse_of_none h, hparse, List.foldl_cons, List.foldl_nil,
          Region.after]
      | ok made =>
        refine ⟨[.get key true, .put key (.of c.files.verify key made.1 made.2)], ?_⟩
        simp only [after, Files.getOrParse_of_none h, hparse, Files.put_eq, List.foldl_cons,
          List.foldl_nil, Region.after]
  | evict path =>
    refine ⟨(c.files.region.keys.filter (·.path = path)).map .pop, ?_⟩
    rw [List.foldl_map]
    rfl
  | relieve =>
    rcases c.files_relieve? with hsame | ⟨mark, htrim⟩
    · exact ⟨[], hsame⟩
    · exact ⟨[.trim mark], htrim⟩
  | clear => exact ⟨[.clear], rfl⟩

/-- Parse results whose books balance, with the bounds and the option that they started with. -/
structure Files.Managed (maxEntries maxBytes : Int) (verify : Bool) (c : Files) : Prop where
  kept : ∃ seen, c.region.Kept StoredFile.size seen
  maxEntries : c.region.maxEntries = maxEntries
  maxBytes : c.region.maxBytes = some maxBytes
  verify : c.verify = verify

namespace Files.Managed

variable {maxEntries maxBytes : Int} {verify : Bool}

/-- Results that nothing was done with yet. -/
protected theorem empty (maxEntries maxBytes : Int) (verify : Bool) :
    (Files.empty maxEntries maxBytes verify).Managed maxEntries maxBytes verify :=
  ⟨⟨[], .start _ _⟩, rfl, rfl, rfl⟩

/-- Any uses of the region keep to the books. -/
theorem foldl_after {c : Files} (h : c.Managed maxEntries maxBytes verify)
    (us : List (Use Source StoredFile)) :
    ({ c with region := us.foldl (Region.after StoredFile.size) c.region } : Files).Managed
      maxEntries maxBytes verify := by
  obtain ⟨seen, hkept⟩ := h.kept
  obtain ⟨hentries, hbytes, -⟩ := c.region.foldl_after_bounds StoredFile.size us
  exact ⟨⟨_, hkept.foldl_after us⟩, hentries.trans h.maxEntries, hbytes.trans h.maxBytes, h.verify⟩

/-- Every operation keeps to the books. -/
theorem after {c : Cache} (h : c.files.Managed maxEntries maxBytes verify) (op : Operation ε) :
    (c.after op).files.Managed maxEntries maxBytes verify := by
  obtain ⟨us, hus⟩ := c.exists_uses op
  rw [hus]
  exact h.foldl_after us

/-- Every history keeps to the books. -/
theorem afterAll {c : Cache} (h : c.files.Managed maxEntries maxBytes verify)
    (ops : List (Operation ε)) : (c.afterAll ops).files.Managed maxEntries maxBytes verify := by
  induction ops generalizing c with
  | nil => exact h
  | cons op ops ih => exact ih (h.after op)

/-- A key is there exactly if it has a result. -/
theorem contains_eq {c : Files} (h : c.Managed maxEntries maxBytes verify) (key : Source) :
    c.region.contains key = (c.region.peek? key).isSome := by
  obtain ⟨seen, hkept⟩ := h.kept
  exact hkept.contains_iff key

end Files.Managed

/-! ### What was stored last -/

/-- One more result is the last one of its key. -/
theorem lastStored?_concat (log : List (Source × ParsedFile)) (key key' : Source)
    (f : ParsedFile) :
    lastStored? (log ++ [(key, f)]) key' = if key' = key then some f else lastStored? log key' := by
  rw [lastStored?, List.reverse_append, List.reverse_singleton, List.singleton_append,
    List.lookup_cons]
  by_cases h : key' = key
  · rw [if_pos h, beq_iff_eq.mpr h]
  · rw [if_neg h, beq_false_of_ne h]
    rfl

/-- What was stored last was stored. -/
theorem mem_of_lastStored? {log : List (Source × ParsedFile)} {key : Source} {f : ParsedFile}
    (h : lastStored? log key = some f) : (key, f) ∈ log :=
  List.mem_reverse.mp (OrderedMap.mem_toList_of_get? (m := ⟨log.reverse⟩) h)

namespace Region

variable {κ ν : Type} [DecidableEq κ] {P Q : κ → ν → Prop} {r : Region κ ν}

/-- Removing a key keeps a property of all values. -/
theorem All.pop (h : r.All P) (key : κ) : (r.pop key).2.All P := by
  refine h.of_subset fun e he => ?_
  unfold Region.pop at he
  split at he
  · exact List.mem_of_mem_filter he
  · exact List.mem_of_mem_filter he

/-- Removing keys keeps a property of all values. -/
theorem All.foldl_pop (h : r.All P) (keys : List κ) :
    (keys.foldl (fun r key => (r.pop key).2) r).All P := by
  induction keys generalizing r with
  | nil => exact h
  | cons key keys ih => exact ih (h.pop key)

/-- Storing a value may change what is said about its key, and about no other one. -/
theorem All.put_of_ne (h : r.All P) {key : κ} {v : ν} (hv : Q key v)
    (hothers : ∀ k w, k ≠ key → P k w → Q k w) (size : Int) : (r.put key v size).All Q := by
  refine All.evict (fun e he w hw => ?_) _
  rw [show (r.insertEntry key (some v) size).store.toList =
    r.store.toList.filter (·.1 ≠ key) ++ [(key, some v)] from r.toList_refresh key _] at he
  rcases List.mem_append.mp he with he | he
  · obtain ⟨hmem, hne⟩ := List.mem_filter.mp he
    exact hothers _ _ (of_decide_eq_true hne) (h e hmem w hw)
  · obtain rfl := List.mem_singleton.mp he
    exact Option.some.inj hw ▸ hv

end Region

namespace Files.Sound

variable {P Q : Source → ParsedFile → Prop} {c : Files}

/-- Storing a result may change what is said about its key, and about no other one. -/
theorem put_of_ne (h : c.Sound P) {key : Source} {f : ParsedFile} (hf : Q key f)
    (hothers : ∀ k g, k ≠ key → P k g → Q k g) (tree : Option SyntaxTree) :
    (c.put key f tree).Sound Q := by
  refine Region.All.put_of_ne h ⟨rfl, fun hv => if_pos hv, hf⟩ ?_ _
  exact fun k e hk he => ⟨he.1, he.2.1, hothers k e.parsed hk he.2.2⟩

end Files.Sound

/-- The results are the last ones of their keys. -/
def Recalls (log : List (Source × ParsedFile)) (c : Cache) : Prop :=
  c.files.Sound fun key f => lastStored? log key = some f

namespace Recalls

variable {c : Cache} {log : List (Source × ParsedFile)}

/-- Storing a result enters it into the log. -/
theorem put (h : c.Recalls log) (key : Source) (f : ParsedFile) (tree : Option SyntaxTree) :
    (c.files.put key f tree).Sound fun k g => lastStored? (log ++ [(key, f)]) k = some g := by
  refine Files.Sound.put_of_ne h ?_ (fun k g hk hg => ?_) tree
  · rw [lastStored?_concat, if_pos rfl]
  · rw [lastStored?_concat, if_neg hk]
    exact hg

/-- What one operation preserves: the results are the last ones, the new one included. -/
theorem after (h : c.Recalls log) (op : Operation ε) :
    (c.after op).Recalls (log ++ (c.stored? op).toList) := by
  have hsound : c.files.Sound fun key f => lastStored? log key = some f := h
  have hget : ∀ key, ({ c.files with region := (c.files.region.get key).2 } : Files).Sound
      fun key f => lastStored? log key = some f := fun key => Region.All.get hsound key true
  cases op with
  | get key =>
    simp only [Recalls, stored?, Option.toList_none, List.append_nil, Cache.after]
    cases hpeek : c.files.region.peek? key with
    | none =>
      rw [Files.get_of_none hpeek]
      exact hget key
    | some e =>
      rw [Files.get_of_some hpeek]
      exact hget key
  | put key f tree => exact h.put key f tree
  | getOrParse key parse =>
    cases hpeek : c.files.region.peek? key with
    | some e =>
      have hnone : c.stored? (.getOrParse key parse) = none := by
        simp only [stored?, Files.getOrParse_of_some hpeek]
        cases c.files.corruption? key e <;> rfl
      simp only [Recalls, hnone, Option.toList_none, List.append_nil, Cache.after,
        Files.getOrParse_of_some hpeek]
      exact hget key
    | none =>
      cases hparse : parse () with
      | error err =>
        simp only [Recalls, stored?, Cache.after, Files.getOrParse_of_none hpeek, hparse,
          Option.toList_none, List.append_nil]
        exact hget key
      | ok made =>
        simp only [Recalls, stored?, Cache.after, Files.getOrParse_of_none hpeek, hparse,
          Option.toList_some]
        have hmid : Recalls log
            { c with files := { c.files with region := (c.files.region.get key).2 } } := hget key
        exact hmid.put key made.1 made.2
  | evict path =>
    simp only [Recalls, stored?, Option.toList_none, List.append_nil]
    exact Region.All.foldl_pop hsound _
  | relieve =>
    simp only [Recalls, stored?, Option.toList_none, List.append_nil, Cache.after]
    rcases c.files_relieve? with hsame | ⟨mark, htrim⟩
    · rw [hsame]
      exact hsound
    · rw [htrim]
      exact Region.All.evict hsound _
  | clear =>
    simp only [Recalls, stored?, Option.toList_none, List.append_nil]
    exact Region.All.clear _

/-- What a history preserves. -/
theorem afterAll (h : c.Recalls log) (ops : List (Operation ε)) :
    (c.afterAll ops).Recalls (log ++ c.stored ops) := by
  induction ops generalizing c log with
  | nil =>
    rw [stored, List.append_nil]
    exact h
  | cons op ops ih =>
    rw [stored, ← List.append_assoc]
    exact ih (h.after op)

end Recalls

/-! ### Look-ups -/

/--
After every history in which each stored result belongs to its version, and so at every point of
one, no look-up is a corruption. A key that is there is not parsed again: every look-up gives the
result that was stored last under it. A key that is not there is parsed; if that fails, the failure
is passed on, and the results, their order and their total size stay as they are.
-/
theorem lookup_recalls (maxEntries maxBytes maxQueries maxGrammars : Int) (verify : Bool)
    (ops : List (Operation ε)) :
    let start := Cache.empty maxEntries maxBytes maxQueries maxGrammars verify
    let log := start.stored ops
    let c := (start.afterAll ops).files
    (∀ x ∈ log, x.2.filePath = x.1.path ∧ x.2.contentHash = x.1.contentHash) →
    ∀ (key : Source) (parse : Unit → Except ε (ParsedFile × Option SyntaxTree)),
      (c.region.contains key = true → ∃ f, lastStored? log key = some f ∧
        (c.get key).1 = .ok (some f) ∧ (c.getOrParse key parse).1 = .ok (f, true)) ∧
      (c.region.contains key = false → (c.get key).1 = .ok none ∧
        (∀ f tree, parse () = .ok (f, tree) → (c.getOrParse key parse).1 = .ok (f, false)) ∧
        ∀ err, parse () = .error err → ∃ c', c.getOrParse key parse = (.error (.parse err), c') ∧
          c'.region.store = c.region.store ∧ c'.region.bytes = c.region.bytes) := by
  intro start log c hlog key parse
  have hmanaged : c.Managed maxEntries maxBytes verify :=
    Files.Managed.afterAll (c := start) (.empty maxEntries maxBytes verify) ops
  have hstart : start.Recalls [] := fun e he => absurd he List.not_mem_nil
  have hsound : c.Sound fun key f => lastStored? log key = some f := hstart.afterAll ops
  have hfaithful : Faithful fun key f => lastStored? log key = some f :=
    ⟨fun _ _ hf => (hlog _ (mem_of_lastStored? hf)).1,
      fun _ _ hf => (hlog _ (mem_of_lastStored? hf)).2⟩
  rw [hmanaged.contains_eq]
  cases hpeek : c.region.peek? key with
  | some e =>
    refine ⟨fun _ => ?_, fun habsent => absurd habsent (by simp)⟩
    obtain ⟨found, c', hget, -, -, -, hfound⟩ := hsound.get hfaithful key
    rw [Files.get_of_some hpeek] at hget
    cases hclean : c.corruption? key e with
    | some fault =>
      rw [hclean] at hget
      cases (Prod.mk.inj hget).1
    | none =>
      rw [hclean] at hget
      refine ⟨e.parsed, hfound _ (Except.ok.inj (Prod.mk.inj hget).1).symm, ?_, ?_⟩
      · rw [Files.get_of_some hpeek, hclean]
      · rw [Files.getOrParse_of_some hpeek, hclean]
  | none =>
    refine ⟨fun hthere => absurd hthere (by simp), fun _ => ⟨?_, fun f tree hparse => ?_,
      fun err hparse => ⟨{ c with region := (c.region.get key).2 }, ?_, ?_, ?_⟩⟩⟩
    · rw [Files.get_of_none hpeek]
    · rw [Files.getOrParse_of_none hpeek, hparse]
    · rw [Files.getOrParse_of_none hpeek, hparse]
    · simp only [Region.get, hpeek]
    · simp only [Region.get, hpeek, Region.bytes]

/-- A version of a file. -/
def someVersion : Source :=
  ⟨"a.py", "1"⟩

/-- A result of a version in a language. -/
def resultIn (key : Source) (language : String) : ParsedFile :=
  { filePath := key.path, language, contentHash := key.contentHash, fileSize := 3 }

/-- A version is parsed, stored again, and looked up after another one came and went. -/
def busyHistory : List (Operation Unit) :=
  [.getOrParse someVersion fun _ => .ok (resultIn someVersion "python", none),
   .put ⟨"b.py", "2"⟩ (resultIn ⟨"b.py", "2"⟩ "python") none,
   .put someVersion (resultIn someVersion "java") none,
   .evict "b.py",
   .relieve]

/-- The result that was stored again is found, although parsing would fail. -/
theorem lookup_recalls_busy :
    (((Cache.empty 2 100 10 10 true).afterAll busyHistory).files.getOrParse someVersion
      fun _ => .error ()).1 = .ok (resultIn someVersion "java", true) := by
  have hlog : (Cache.empty 2 100 10 10 true).stored busyHistory =
      [(someVersion, resultIn someVersion "python"),
        (⟨"b.py", "2"⟩, resultIn ⟨"b.py", "2"⟩ "python"),
        (someVersion, resultIn someVersion "java")] := by
    decide
  have hthere : ((Cache.empty 2 100 10 10 true).afterAll
      busyHistory).files.region.contains someVersion = true := by
    decide +kernel
  have hbelong : ∀ x ∈ (Cache.empty 2 100 10 10 true).stored busyHistory,
      x.2.filePath = x.1.path ∧ x.2.contentHash = x.1.contentHash := by
    rw [hlog]
    decide
  obtain ⟨f, hlast, -, hfound⟩ :=
    (lookup_recalls 2 100 10 10 true busyHistory hbelong someVersion fun _ => .error ()).1 hthere
  rw [hlog] at hlast
  rw [hfound, ← Option.some.inj hlast]

end CodeGraph.Cache
