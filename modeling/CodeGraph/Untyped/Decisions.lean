import CodeGraph.Builtin
import CodeGraph.Selection
import CodeGraph.Untyped.Refusal

/-!
# Decisions on untyped arguments

Whether a call is answered by its language, and what becomes of a file, for arguments of any kind.
An argument is refused when a test needs it, so one that no test reaches may be anything.

## Main definitions

* `Untyped.extraNames`: further built-in names per language.
* `Untyped.isBuiltin`: the test of a call.
* `Untyped.FileDecision`: what a selection says of a file.
-/

namespace CodeGraph.Untyped

/-! ### Built-in calls -/

/-- The texts among the elements of a sequence, all of which can be keys. -/
def names (v : Json) : Answer (List String) := do
  let keys ← (← elements v).mapM Key.ofJson
  return keys.filterMap fun
    | .text s => some s
    | _ => none

/-- Further names per language; a value that counts as absent stands for none. -/
def extraNames (v : Json) : Answer (OrderedMap String (List String)) :=
  match v with
  | .object fields => do
    let entries ← fields.mapM fun (language, v) => (names v).map fun ns => (language, ns)
    return .ofList entries
  | v => if v.truthy then .error .noOperation else .ok ∅

/-- Whether a name stands between double underscores; only a long sequence is looked into. -/
def isSpecialName (name : Json) : Answer Bool := do
  if 4 < (← length name) then return Builtin.isSpecialName (← text .noOperation name)
  else return false

/-- The test of a name that is not special, on a receiver that can be a key. -/
def isProvided (extra : OrderedMap String (List String)) (language : String)
    (name receiver : Json) (receiverIsImport : Bool) : Answer Bool :=
  match receiver, name with
  | .null, .text n => .ok (Builtin.isBuiltin extra language n none receiverIsImport)
  | .null, _ => .error .wrongKind
  | .text r, .text n => .ok (Builtin.isBuiltin extra language n (some r) receiverIsImport)
  | .text r, _ =>
    if Builtin.isBuiltin extra language "" (some r) true then .ok true
    else if receiverIsImport then .ok false
    else .error .wrongKind
  | _, _ => .error .noOperation

/-- The test of a name that is not special; a language that is no text provides nothing. -/
def isProvidedBy (extra : OrderedMap String (List String))
    (language name receiver receiverIsImport : Json) : Answer Bool := do
  match ← Key.ofJson language with
  | .text l => isProvided extra l name receiver receiverIsImport.truthy
  | _ => isProvided ∅ "" name receiver receiverIsImport.truthy

/-- Whether a call is answered by the language. -/
def isBuiltin (extra : OrderedMap String (List String))
    (language name receiver receiverIsImport : Json) : Answer Bool := do
  if ← isSpecialName name then return true
  match ← Key.ofJson receiver with
  | .text r =>
    if r ∈ Builtin.selfReceivers then return false
    else isProvidedBy extra language name receiver receiverIsImport
  | _ => isProvidedBy extra language name receiver receiverIsImport

/-! ### Files -/

/-- What a selection says of a file. -/
structure FileDecision where
  excluded : Option SkipReason
  ignored : Bool
  directoryMatch : Bool
  extensionMatch : Bool
  category : Category
  generated : Option SkipReason

/-- Why a file is left out: its content is looked into only if its path is not refused. -/
def exclusion (s : Selection) (path : String) : Json → Answer (Option SkipReason)
  | .null => .ok (s.exclusion? path none)
  | .text content => .ok (s.exclusion? path (some content))
  | _ =>
    match s.exclusion? path none with
    | some .empty => .error .noOperation
    | reason => .ok reason

/-- Whether a content is generated, if there is one. -/
def generated (s : Selection) : Json → Answer (Option SkipReason)
  | .null => .ok none
  | .text content => .ok (s.generated? content)
  | v => do
    if s.maxFileSize < (← length v) then return some .tooLarge else throw .noOperation

/-- What a selection says of a path and a content. -/
def decideFile (s : Selection) (path content : Json) : Answer FileDecision := do
  let p ← text (if s.directoryFilters.isEmpty then .noOperation else .wrongKind) path
  return {
    excluded := ← exclusion s p content
    ignored := s.ignores p
    directoryMatch := s.matchesDirectory p
    extensionMatch := s.matchesExtension p
    category := s.classify p
    generated := ← generated s content }

end CodeGraph.Untyped
