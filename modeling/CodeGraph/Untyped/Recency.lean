import CodeGraph.Cache.Region
import CodeGraph.Untyped.Refusal

/-!
# Recency regions of untyped values

A region whose keys, values and bounds are JSON values. A bound may be fractional, missing, or of a
kind that counts cannot be compared with; the last is noticed only when there is something to count.

## Main definitions

* `Untyped.Bound`: what counts are compared with.
* `Untyped.Recency`: a region of untyped values.
* `Untyped.Recency.step`: its operations by name.
-/

namespace CodeGraph.Untyped

open Cache (Region)

/-- What a count is compared with. -/
inductive Bound where
  | unbounded
  | atMost (n : Int)
  | incomparable
deriving DecidableEq, Repr, Inhabited

/-- The bound that a number is: a count exceeds it exactly if it exceeds its floor. -/
def Bound.ofDouble (d : Double) : Bound :=
  match d.floor? with
  | some n => .atMost n
  | none => if d.isNegative && !d.isNaN then .atMost (-1) else .unbounded

/-- The bound that a value is. -/
def Bound.ofJson : Json → Bound
  | .int n => .atMost n
  | .bool b => .atMost (if b then 1 else 0)
  | .float d => .ofDouble d
  | _ => .incomparable

/-- The bound that a value is, if it is there. -/
def Bound.ofOptional : Json → Bound
  | .null => .unbounded
  | v => .ofJson v

/-- The number that a count is compared with. -/
def Bound.limit? (b : Bound) (count : Nat) : Option Int :=
  match b with
  | .unbounded => some count
  | .atMost n => some n
  | .incomparable => none

/-- A region of untyped values. -/
structure Recency where
  region : Region Key Json := { maxEntries := 0 }
  /-- The keys as they were last written. -/
  spellings : OrderedMap Key Json := ∅
  maxEntries : Bound
  maxBytes : Bound
  /-- Whether values count by their length. -/
  sized : Bool

namespace Recency

/-- An empty region. -/
def empty (maxEntries maxBytes : Json) (sized : Bool) : Recency where
  maxEntries := .ofJson maxEntries
  maxBytes := .ofOptional maxBytes
  sized

/-- The keys as they were written, from the least to the most recently used. -/
def keys (s : Recency) : List Json :=
  s.region.keys.map fun k => s.spellings.getD k .null

/-- The same with another region. -/
def withRegion (s : Recency) (region : Region Key Json) : Recency :=
  { s with region }

/--
Evict down to the bound on entries and a budget; how many entries went. A bound that cannot be
compared with refuses, and what went until then is not counted.
-/
def evict (s : Recency) (budget : Bound) : Answer Nat × Recency :=
  if s.region.size = 0 then (.ok 0, s)
  else match s.maxEntries.limit? s.region.size with
    | none => (.error .wrongKind, s)
    | some limit =>
      let r := { s.region with maxEntries := limit }
      match budget with
      | .unbounded => ((.ok (r.evict none).2), s.withRegion (r.evict none).1)
      | .atMost n => ((.ok (r.evict (some n)).2), s.withRegion (r.evict (some n)).1)
      | .incomparable =>
        let (left, dropped) := r.evict none
        if left.size = 0 then (.ok dropped, s.withRegion left)
        else (.error .wrongKind, s.withRegion { left with evictions := r.evictions })

/-- The size of a value. -/
def sizeOf (s : Recency) (v : Json) : Answer Int :=
  if s.sized then (length v).map Int.ofNat else .ok 0

/-- Give a key a value; null only takes its place. -/
def put (s : Recency) (key value : Json) : Answer Json × Recency :=
  match s.sizeOf value, Key.ofJson key with
  | .ok size, .ok k =>
    let content := match value with
      | .null => none
      | v => some v
    let stored : Recency := { s with
      region := s.region.insertEntry k content size
      spellings := s.spellings.insert k key }
    let (result, s) := stored.evict s.maxBytes
    (result.map fun _ => .null, s)
  | .error refusal, _ => (.error refusal, s)
  | _, .error refusal => (.error refusal, s)

/-- Apply an operation to a key. -/
def withKey (s : Recency) (key : Json) (f : Key → Json × Region Key Json) :
    Answer Json × Recency :=
  match Key.ofJson key with
  | .error refusal => (.error refusal, s)
  | .ok k =>
    let (answer, region) := f k
    (.ok answer, s.withRegion region)

/-- Look a key up. -/
def get (s : Recency) (key : Json) (counted : Bool) : Answer Json × Recency :=
  s.withKey key fun k =>
    let (found, region) := s.region.get k counted
    (found.getD .null, region)

/-- Remove a key. -/
def pop (s : Recency) (key : Json) : Answer Json × Recency :=
  s.withKey key fun k =>
    let (found, region) := s.region.pop k
    (found.getD .null, region)

/-- An operation by name. -/
def step (s : Recency) (name : String) (arguments : List Json) : Answer Json × Recency :=
  match name, arguments with
  | "put", [key, value] => s.put key value
  | "get", [key] => s.get key true
  | "get", [key, counted] => s.get key counted.truthy
  | "pop", [key] => s.pop key
  | "trim", [budget] =>
    let (dropped, s) := s.evict (.ofOptional budget)
    (dropped.map fun n => .int n, s)
  | "clear", [] => (.ok .null, s.withRegion s.region.clear)
  | "contains", [key] => s.withKey key fun k => (.bool (s.region.contains k), s.region)
  | _, _ => (.error .wrongKind, s)

end Recency

end CodeGraph.Untyped
