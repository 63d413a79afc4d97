import CodeGraph.Builtin.Names
import CodeGraph.OrderedMap
import CodeGraph.Text.Blank

/-!
# Built-in calls

Which calls are left out of resolution because a language or framework answers them.

## Main definitions

* `Builtin.isSpecialName`: names between double underscores.
* `Builtin.Names.ofLanguage`: what a language provides.
* `Builtin.isBuiltin`: the test of one call.
-/

namespace CodeGraph.Builtin

/-- Receivers that stand for the object or class a method belongs to. -/
def selfReceivers : List String :=
  ["self", "this", "cls", "super"]

/-- What a language provides: functions, methods, and receivers. -/
structure Names where
  functions : List String := []
  methods : List String := []
  receivers : List String := []

/-- What a language provides; an unknown one provides nothing. -/
def Names.ofLanguage (language : String) : Names :=
  if language = "python" then ⟨pythonFunctions, pythonMethods, pythonReceivers⟩
  else if language = "java" then ⟨javaFunctions, javaMethods, javaReceivers⟩
  else if language ∈ ["javascript", "typescript", "tsx"] then
    ⟨scriptFunctions ++ frameworkEntryPoints, scriptMethods, scriptReceivers⟩
  else {}

/-- A name between double underscores, with something in between. -/
def isSpecialName (name : String) : Bool :=
  4 < Text.length name && Text.startsWith "__" name && Text.endsWith "__" name

/-- Leading identifier of a receiver: what stands before its first dot and parenthesis. -/
def receiverRoot (receiver : String) : String :=
  Text.trim (Text.beforeChar '(' (Text.beforeChar '.' receiver))

/--
Whether a call is answered by the language. `extra` holds further names per language; a receiver
that is an import keeps its methods out of the built-in ones.
-/
def isBuiltin (extra : OrderedMap String (List String)) (language name : String)
    (receiver : Option String) (receiverIsImport : Bool) : Bool :=
  let names := Names.ofLanguage language
  let more := extra.getD language []
  if isSpecialName name then true
  else match receiver with
    | none => name ∈ names.functions || name ∈ more
    | some receiver =>
      if receiver ∈ selfReceivers then false
      else
        let root := receiverRoot receiver
        if root ∈ names.receivers || root ∈ more then true
        else if receiverIsImport then false
        else name ∈ names.methods || name ∈ more

end CodeGraph.Builtin
