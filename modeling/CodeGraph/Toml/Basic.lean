import CodeGraph.Number.Double

/-!
# TOML values

Documents of tables, arrays and scalars. Dates and times are only known to be there.
-/

namespace CodeGraph

/-- A TOML value. -/
inductive Toml where
  | text (s : String)
  | int (n : Int)
  | float (d : Double)
  | bool (b : Bool)
  | moment
  | list (items : List Toml)
  | table (entries : List (String × Toml))
deriving Repr, Inhabited

namespace Toml

/-- Entries of a table in order of appearance. -/
abbrev Entries := List (String × Toml)

/-- Whether a value counts as present: not false, zero, or empty. -/
def truthy : Toml → Bool
  | text s => s ≠ ""
  | int n => n ≠ 0
  | float d => !d.isZero
  | bool b => b
  | moment => true
  | list items => !items.isEmpty
  | table entries => !entries.isEmpty

/-- Replace the value of a key that is there. -/
def Entries.replace (t : Entries) (key : String) (v : Toml) : Entries :=
  t.map fun e => if e.1 = key then (key, v) else e

/--
Apply a change to the table at a path of keys, creating missing tables on the way. A key that
holds an array leads to its last table if `throughArrays` is set; any other value blocks the way.
-/
def Entries.update {ε : Type} (blocked : ε) (throughArrays : Bool) :
    List String → (Entries → Except ε Entries) → Entries → Except ε Entries
  | [], change, t => change t
  | key :: path, change, t =>
    match t.lookup key with
    | none => do
      let inner ← Entries.update blocked throughArrays path change []
      return t ++ [(key, table inner)]
    | some (table inner) => do
      let inner ← Entries.update blocked throughArrays path change inner
      return Entries.replace t key (table inner)
    | some (list items) =>
      match throughArrays, items.getLast? with
      | true, some (table inner) => do
        let inner ← Entries.update blocked throughArrays path change inner
        return Entries.replace t key (list (items.dropLast ++ [table inner]))
      | _, _ => .error blocked
    | some _ => .error blocked

end Toml

end CodeGraph
