import CodeGraph.Call.Lookup

/-!
# Call resolution

Each call site ends in one of four states; the first rule that applies decides. A call is built in,
or reached through the imports of its file, or defined in its file, or left unresolved. Calls
between the same two nodes share a relationship.

## Main definitions

* `CallContext.classify`, `CallContext.classified`: the states of call sites and their targets.
* `CallEdge`: calls between two nodes.
* `Calls.add`, `Calls.ofFiles`: counts, calls left over and edges, call by call.
-/

namespace CodeGraph

/-- What the classification of calls depends on. -/
structure CallContext extends Symbols where
  /-- Further built-in names of each language. -/
  extraBuiltins : OrderedMap String (List String) := ∅
  /-- Number of hops through imports of imported files. -/
  maxHops : Nat := 5

namespace CallContext

variable (c : CallContext)

/-! ### Through imports -/

/-- The target of a call without receiver, through the imports of its file. -/
def importedFunction? (path name : String) : Option Definition :=
  match c.imports.binding? path name with
  | some b => c.follow c.maxHops b
  | none =>
    (c.imports.wildcards path).findSome? fun target =>
      c.lookup (c.maxHops - 1) target (.named name)

/-- The method of a class behind a binding. -/
def methodThrough? (b : ImportBinding) (name : String) : Option Definition :=
  match c.follow c.maxHops b with
  | some owner =>
    if owner.kind = .classDecl then (c.methodsOf owner.filePath owner.name name).head? else none
  | none => none

/-- The target of a call on an imported receiver. -/
def memberThrough? (b : ImportBinding) (name : String) : Option Definition :=
  match b.kind with
  | .namespaced => c.lookup c.maxHops b.targetFile (.named name)
  | .default => c.lookup c.maxHops b.targetFile (.named name) <|> c.methodThrough? b name
  | .named | .wildcard => c.methodThrough? b name

/-- The target of a call on a receiver, through the imports of its file. -/
def importedMember? (path receiver name : String) : Option Definition :=
  if receiver ∈ Builtin.selfReceivers then none
  else match c.imports.binding? path (Text.trim receiver) with
    | some b => c.memberThrough? b name
    | none => do
      let owner ← c.wildcardClass? path receiver
      (c.methodsOf owner.filePath owner.name name).head?

/-- The target of a call through the imports of its file. -/
def throughImports? (site : CallSite) : Option Definition :=
  match site.receiver with
  | none => c.importedFunction? site.filePath site.calledName
  | some receiver => c.importedMember? site.filePath receiver site.calledName

/-! ### In the same file -/

/-- The method of the caller's class with the called name. -/
def siblingMethod? (site : CallSite) : Option Definition := do
  let className ← present? site.callerClass
  (c.methodsOf site.filePath className site.calledName).head?

/-- The target of a call in its own file. -/
def sameFile? (site : CallSite) : Option Definition :=
  let callables := c.callables site.filePath site.calledName
  match site.receiver with
  | none => (callables.filter (·.parentClass.isNone)).head? <|> c.siblingMethod? site
  | some receiver =>
    if receiver ∈ Builtin.selfReceivers then c.siblingMethod? site <|> callables.head?
    else do
      let owner ← (c.registry.namedIn site.filePath receiver).find? (·.kind = .classDecl)
      (c.methodsOf site.filePath owner.name site.calledName).head?

/-! ### Classification -/

/-- Whether the receiver of a call is imported. -/
def receiverIsImport (site : CallSite) : Bool :=
  match site.receiver with
  | none => false
  | some receiver =>
    (c.imports.binding? site.filePath (Text.trim receiver)).isSome
      || (c.imports.binding? site.filePath (site.receiverRoot.getD "")).isSome
      || (c.wildcardClass? site.filePath receiver).isSome

/-- Whether a call is answered by its language. -/
def isBuiltin (language : String) (site : CallSite) : Bool :=
  Builtin.isBuiltin c.extraBuiltins language site.calledName site.receiver
    (c.receiverIsImport site)

/-- The state of a call site, and its target. -/
def classify (language : String) (site : CallSite) : Classification × Option Definition :=
  if c.isBuiltin language site then (.builtin, none)
  else match c.throughImports? site with
    | some d => (.imported, some d)
    | none =>
      match c.sameFile? site with
      | some d => (.localTarget, some d)
      | none => (.unresolved, none)

end CallContext

/-- A call site of a file with its state and target. -/
structure ClassifiedCall where
  path : String
  site : CallSite
  state : Classification
  target : Option Definition
deriving DecidableEq, Repr, Inhabited

/-- The call sites of the parsed files with their states and targets, in order of the paths. -/
def CallContext.classified (c : CallContext) (parsed : ParsedFiles) : List ClassifiedCall :=
  (ParsedFiles.sorted parsed).flatMap fun (path, p) => p.callSites.map fun site =>
    let (state, target) := c.classify p.language site
    { path, site, state, target }

/-- A call that was left unresolved. -/
structure UnresolvedCall where
  filePath : String
  line : Int
  calledName : String
  receiver : Option String
  caller : Option String
deriving DecidableEq, Repr, Inhabited

/-- The record of a call that was left unresolved. -/
def ClassifiedCall.leftOver (c : ClassifiedCall) : UnresolvedCall where
  filePath := c.path
  line := c.site.line
  calledName := c.site.calledName
  receiver := c.site.receiver
  caller := c.site.callerName

/-- What a relationship between two nodes records about the calls behind it. -/
structure CallEdge where
  state : Classification
  calledName : String
  lines : List Int
  callCount : Nat
deriving DecidableEq, Repr, Inhabited

/-- The properties of a relationship of calls. -/
def CallEdge.properties (e : CallEdge) : Properties :=
  ⟨[("callType", .text e.state.name),
    ("calledName", .text e.calledName),
    ("lines", .ints e.lines),
    ("callCount", .int e.callCount)]⟩

/--
The calls so far: with their states and targets, how many are in each state, those left unresolved,
and the edges between nodes.
-/
structure Calls where
  sites : List ClassifiedCall := []
  stats : OrderedMap Classification Nat := ⟨Classification.all.map (·, 0)⟩
  unresolved : List UnresolvedCall := []
  edges : OrderedMap (String × String) CallEdge := ∅
deriving DecidableEq, Repr, Inhabited

namespace Calls

/-- Number of calls in a state. -/
def count (calls : Calls) (state : Classification) : Nat :=
  calls.stats.getD state 0

/-- Number of calls that have a target. -/
def resolved (calls : Calls) : Nat :=
  calls.count .imported + calls.count .localTarget

/-- The share of calls with a target among those that are not built in. -/
def rate (calls : Calls) : Double :=
  .ratio calls.resolved (calls.resolved + calls.count .unresolved)

/-- The node that a call starts from: its caller, or else its file. -/
def sourceId? (g : Graph) (fileIds : OrderedMap String String) (c : ClassifiedCall) :
    Option String :=
  ((present? c.site.callerId).filter g.hasNode) <|> fileIds.get? c.path

/-- Add a call to the edges between nodes. -/
def addEdge (g : Graph) (fileIds : OrderedMap String String)
    (edges : OrderedMap (String × String) CallEdge) (c : ClassifiedCall) :
    OrderedMap (String × String) CallEdge :=
  match c.target, sourceId? g fileIds c with
  | some target, some source =>
    if g.hasNode target.nodeId then
      let key := (source, target.nodeId)
      match edges.get? key with
      | none => edges.insert key ⟨c.state, c.site.calledName, [c.site.line], 1⟩
      | some e => edges.insert key
          { e with lines := e.lines ++ [c.site.line], callCount := e.callCount + 1 }
    else edges
  | _, _ => edges

/-- Count a call in its state, and record it as left unresolved or on an edge. -/
def add (g : Graph) (fileIds : OrderedMap String String) (calls : Calls) (c : ClassifiedCall) :
    Calls :=
  let counted := { calls with
    sites := calls.sites ++ [c]
    stats := calls.stats.increment c.state }
  if c.state = .unresolved then { counted with unresolved := calls.unresolved ++ [c.leftOver] }
  else { counted with edges := addEdge g fileIds calls.edges c }

/-- The calls of parsed files. -/
def ofFiles (c : CallContext) (g : Graph) (fileIds : OrderedMap String String)
    (parsed : ParsedFiles) : Calls :=
  (c.classified parsed).foldl (add g fileIds) {}

/-- The relationships of the calls. -/
def relationships (calls : Calls) : List Relationship :=
  calls.edges.toList.map fun ((source, target), e) => .between .calls source target e.properties

/-- The graph with the relationships of the calls, and how many of them were new. -/
def addTo (calls : Calls) (g : Graph) : Graph × Nat :=
  g.addRelationships calls.relationships

end Calls

end CodeGraph
