import CodeGraph.Number.Double
import CodeGraph.Json.Basic

/-!
# Recency regions

A bounded store that forgets what was used least recently. It is bounded by a number of entries
and, if a budget is set, by the total size of the entries; the newest entry stays even if it alone
exceeds the budget. Sizes are kept in a table of their own, with a running total.

## Main definitions

* `Ledger`: recorded sizes with their total.
* `Region`: values from the least to the most recently used, with a ledger and counters.
* `Region.get`, `Region.put`, `Region.pop`, `Region.trim`, `Region.clear`: its operations.
* `Region.Stats`: what is reported about it.
-/

namespace CodeGraph.Cache

/-! ### Ledgers -/

/-- Recorded sizes with their running total. -/
structure Ledger (κ : Type) where
  sizes : OrderedMap κ Int := ∅
  total : Int := 0

namespace Ledger

variable {κ : Type} [DecidableEq κ]

/-- Record the size of a key. -/
def record (l : Ledger κ) (key : κ) (size : Int) : Ledger κ where
  sizes := l.sizes.insert key size
  total := l.total + size

/-- Forget the size of a key; without a size it frees nothing. -/
def forget (l : Ledger κ) (key : κ) : Ledger κ where
  sizes := l.sizes.erase key
  total := l.total - l.sizes.getD key 0

end Ledger

/-! ### Regions -/

/-- A bounded store ordered by recency. -/
structure Region (κ ν : Type) where
  maxEntries : Int
  maxBytes : Option Int := none
  /--
  Values by key, from the least to the most recently used. A reserved key has no value: it takes its
  place, and a look-up does not find it.
  -/
  store : OrderedMap κ (Option ν) := ∅
  ledger : Ledger κ := {}
  hits : Nat := 0
  misses : Nat := 0
  evictions : Nat := 0

namespace Region

variable {κ ν : Type}

/-- Number of entries. -/
def size (r : Region κ ν) : Nat :=
  r.store.size

/-- Total size of the entries. -/
def bytes (r : Region κ ν) : Int :=
  r.ledger.total

/-- The keys, from the least to the most recently used. -/
def keys (r : Region κ ν) : List κ :=
  r.store.keys

/-- Forget all entries; the counters stay. -/
def clear (r : Region κ ν) : Region κ ν :=
  { r with store := ∅, ledger := {} }

/-- Whether entries have to go: there are too many, or more than one of them exceed the budget. -/
def isOver (maxEntries : Int) (maxBytes : Option Int) (count : Nat) (bytes : Int) : Bool :=
  maxEntries < count || (1 < count && (maxBytes.map fun b => decide (b < bytes)).getD false)

variable [DecidableEq κ]

/-- Drop the oldest entries while there is too much; what is left, and how many went. -/
def dropOldest (maxEntries : Int) (maxBytes : Option Int) :
    List (κ × Option ν) → Ledger κ → List (κ × Option ν) × Ledger κ × Nat
  | [], ledger => ([], ledger, 0)
  | e :: es, ledger =>
    if isOver maxEntries maxBytes (es.length + 1) ledger.total then
      let (kept, ledger, dropped) := dropOldest maxEntries maxBytes es (ledger.forget e.1)
      (kept, ledger, dropped + 1)
    else (e :: es, ledger, 0)

/-- Evict down to the bound on entries and a budget; how many entries went. -/
def evict (r : Region κ ν) (budget : Option Int) : Region κ ν × Nat :=
  let (kept, ledger, dropped) := dropOldest r.maxEntries budget r.store.toList r.ledger
  ({ r with store := ⟨kept⟩, ledger, evictions := r.evictions + dropped }, dropped)

/-- Evict down to a budget; how many entries went. -/
def trim (r : Region κ ν) (budget : Int) : Region κ ν × Nat :=
  r.evict (some budget)

/-- Whether a key has an entry. -/
def contains (r : Region κ ν) (key : κ) : Bool :=
  r.store.contains key

/-- The value of a key, without using it. -/
def peek? (r : Region κ ν) (key : κ) : Option ν :=
  (r.store.get? key).join

/-- The values with a key as the most recently used one. -/
def refresh (r : Region κ ν) (key : κ) (value : Option ν) : OrderedMap κ (Option ν) :=
  (r.store.erase key).insert key value

/-- Look a key up, which makes it the most recently used; `counted` look-ups enter the counters. -/
def get (r : Region κ ν) (key : κ) (counted : Bool := true) : Option ν × Region κ ν :=
  match r.peek? key with
  | some v =>
    let hits := if counted then r.hits + 1 else r.hits
    (some v, { r with store := r.refresh key (some v), hits })
  | none => (none, { r with misses := if counted then r.misses + 1 else r.misses })

/-- Remove a key; its value. The size of a reserved key stays on record. -/
def pop (r : Region κ ν) (key : κ) : Option ν × Region κ ν :=
  let left := { r with store := r.store.erase key }
  match r.peek? key with
  | some v => (some v, { left with ledger := r.ledger.forget key })
  | none => (none, left)

/-- Give a key a value, or reserve it, as the most recently used one. -/
def insertEntry (r : Region κ ν) (key : κ) (value : Option ν) (size : Int) : Region κ ν :=
  let ledger := if r.contains key then r.ledger.forget key else r.ledger
  { r with store := r.refresh key value, ledger := ledger.record key size }

/-- Give a key a value of a given size, and evict what is too much. -/
def put (r : Region κ ν) (key : κ) (value : ν) (size : Int := 0) : Region κ ν :=
  ((r.insertEntry key (some value) size).evict r.maxBytes).1

/-- Change the value of a key where it stands. -/
def modify (r : Region κ ν) (key : κ) (f : ν → ν) : Region κ ν :=
  { r with store := ⟨r.store.toList.map fun e => if e.1 = key then (e.1, e.2.map f) else e⟩ }

end Region

/-- What is reported about a region. -/
structure Stats where
  size : Nat
  hits : Nat
  misses : Nat
  evictions : Nat
  bytes : Int
deriving DecidableEq, Repr, Inhabited

/-- The counters of a region. -/
def Region.stats {κ ν : Type} (r : Region κ ν) : Stats where
  size := r.size
  hits := r.hits
  misses := r.misses
  evictions := r.evictions
  bytes := r.bytes

/-- The share of hits among counted look-ups. -/
def Stats.hitRate (s : Stats) : Double :=
  .ratio s.hits (s.hits + s.misses)

/-- The counters as fields of a JSON object. -/
def Stats.fields (s : Stats) : List (String × Json) :=
  [("size", .int s.size),
   ("hits", .int s.hits),
   ("misses", .int s.misses),
   ("hit_rate", .float s.hitRate),
   ("evictions", .int s.evictions),
   ("bytes", .int s.bytes)]

/-- The counters as JSON. -/
def Stats.toJson (s : Stats) : Json :=
  .object s.fields

end CodeGraph.Cache
