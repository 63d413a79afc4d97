import CodeGraph.Number.Double
import CodeGraph.Text.Quoted
import CodeGraph.OrderedMap

/-!
# JSON values

Documents with whole numbers and doubles kept apart, and objects in the order of their fields.

## Main definitions

* `Json`: the values.
* `Json.truthy`: whether a value counts as present.
* `Json.display`: the text of a value inside labels and messages.
-/

namespace CodeGraph

/-- A JSON value. -/
inductive Json where
  | null
  | bool (b : Bool)
  | int (n : Int)
  | float (d : Double)
  | text (s : String)
  | list (items : List Json)
  | object (fields : List (String × Json))
deriving Repr, Inhabited

namespace Json

/-- The field of an object with a given name. -/
def field? (name : String) : Json → Option Json
  | object fields => fields.lookup name
  | _ => none

/-- Whether a value counts as present: not null, false, zero, and not empty. -/
def truthy : Json → Bool
  | null => false
  | bool b => b
  | int n => n ≠ 0
  | float d => !d.isZero
  | text s => s ≠ ""
  | list items => !items.isEmpty
  | object fields => !fields.isEmpty

mutual

/-- The text of a value inside a collection: as `display`, with texts between quotes. -/
def nested : Json → String
  | null => "None"
  | bool b => if b then "True" else "False"
  | int n => toString n
  | float d => d.shortest
  | text s => Text.quoted s
  | list items => "[" ++ nestedItems items ++ "]"
  | object fields => "\x7b" ++ nestedFields fields ++ "\x7d"

/-- The items of a list, separated by commas. -/
def nestedItems : List Json → String
  | [] => ""
  | [v] => nested v
  | v :: vs => nested v ++ ", " ++ nestedItems vs

/-- The fields of an object, separated by commas. -/
def nestedFields : List (String × Json) → String
  | [] => ""
  | [(k, v)] => Text.quoted k ++ ": " ++ nested v
  | (k, v) :: fs => Text.quoted k ++ ": " ++ nested v ++ ", " ++ nestedFields fs

end

/-- The text of a value inside labels and messages: a text stands for itself. -/
def display : Json → String
  | text s => s
  | v => nested v

end Json

end CodeGraph
