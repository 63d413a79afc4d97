import CodeGraph.Digest
import CodeGraph.Extract.Declaration
import CodeGraph.Extract.Imports

/-!
# Extraction

All definitions and call sites of one file: every query of the language runs over the syntax tree,
repeated finds are dropped, and the result is put in the order of the text. A query that does not
compile is reported and skipped.

## Main definitions

* `SourceTree.definitions`: the definitions of a file.
* `SourceTree.isReadable`: whether the names of all declarations can be read.
* `innermost`: the smallest definition around a byte.
* `SourceTree.callSites`: the call sites of a file.
* `ParsedFile.extract`: everything that later stages need from a file.
-/

namespace CodeGraph

/-! ### Order of the text -/

/-- Lexicographic combination of a comparison with a less important order. -/
def thenLe (o : Ordering) (le : Bool) : Bool :=
  match o with
  | .lt => true
  | .eq => le
  | .gt => false

/-- The order of definitions: by span, kind and name. -/
def Definition.le (a b : Definition) : Bool :=
  thenLe (compare a.startByte b.startByte) <|
  thenLe (compare a.endByte b.endByte) <|
  thenLe (compare a.kind.name b.kind.name) <|
  decide (a.name ≤ b.name)

/-- Whether two definitions have the same kind, span and name. -/
def Definition.sameEntity (a b : Definition) : Bool :=
  a.kind = b.kind && a.startByte = b.startByte && a.endByte = b.endByte && a.name = b.name

/-- The first definition of each entity, in order. -/
def Definition.distinct (ds : List Definition) : List Definition :=
  ds.foldl (fun seen d => if seen.any d.sameEntity then seen else seen ++ [d]) []

/-- The order of call sites: by place and called name. -/
def CallSite.le (a b : CallSite) : Bool :=
  thenLe (compare a.line b.line) <|
  thenLe (compare a.column b.column) <|
  decide (a.calledName ≤ b.calledName)

/-! ### Callers -/

/-- Whether a byte lies inside a definition. -/
def Definition.covers (d : Definition) (byte : Int) : Bool :=
  d.startByte ≤ byte && byte < d.endByte

/-- The smallest of some definitions around a byte; of equally small ones the first. -/
def innermost (candidates : List Definition) (byte : Int) : Option Definition :=
  (candidates.filter (·.covers byte)).foldl (fun best d =>
    match best with
    | none => some d
    | some b => if d.span < b.span then some d else some b) none

/-- The class that a caller belongs to: a class belongs to itself. -/
def Definition.ownClass (d : Definition) : Option String :=
  if d.kind = .classDecl then some d.name else d.parentClass

namespace SourceTree

variable (src : SourceTree)

/-- The definitions of the matches of one query. -/
def definitionsOf (l : Language) (path : String) (name : QueryName) (q : Query) :
    List Definition :=
  if name = .calls then []
  else match name.definitionKind? with
    | some kind => (q.run src).filterMap (src.declaration? l path kind)
    | none => (q.run src).flatMap (src.importDefinitions l path name)

/-- The definitions of a file, in the order of the text. -/
def definitions (l : Language) (broken : List BrokenQuery) (path : String) : List Definition :=
  let usable := l.queries.filter fun (name, _) => l.compiles broken name
  Sorting.sort Definition.le (Definition.distinct (usable.flatMap fun (name, q) =>
    src.definitionsOf l path name q))

/-- Whether the name in a match for an entity of a kind can be read. -/
def isNamed (kind : DefinitionKind) (m : Match) : Bool :=
  kind = .decorator || (m.node? "node").isNone || ((m.node? "name").map src.isNameable).getD true

/-- Whether the names of all declarations of a file can be read, as in every small tree. -/
def isReadable (l : Language) (broken : List BrokenQuery) : Bool :=
  src.tree.nodes.size ≤ maxPatternDepth || l.queries.all fun (name, q) =>
    !l.compiles broken name || (name.definitionKind?.map fun kind =>
      (q.run src).all (src.isNamed kind)).getD true

/-- A call: its node, what it calls, and on which receiver. -/
structure Call where
  node : Nat
  name : String
  receiver : Option String

/-- The call of a match; a callee without text is none. -/
def call? (m : Match) : Option Call := do
  let node ← m.node? "node"
  let callee ← m.node? "callee"
  let name := src.text callee
  if name = "" then none
  else some ⟨node, name, present? ((m.node? "receiver").map src.text)⟩

/-- The first of the calls of one name that start at the same byte. -/
def distinctCalls (calls : List Call) : List Call :=
  calls.foldl (fun seen c =>
    let same := fun d : Call =>
      (src.tree.node d.node).start = (src.tree.node c.node).start && d.name = c.name
    if seen.any same then seen else seen ++ [c]) []

/-- The call site of a call, with its innermost caller. -/
def callSite (path : String) (callers : List Definition) (c : Call) : CallSite :=
  let start := (src.tree.node c.node).start
  let caller := innermost callers start
  { filePath := path
    calledName := c.name
    receiver := c.receiver
    line := src.startLine c.node
    column := src.column start
    callerId := caller.map Definition.nodeId
    callerName := caller.map Definition.name
    callerClass := caller.bind Definition.ownClass }

/-- The call sites of a file, in the order of the text. -/
def callSites (l : Language) (broken : List BrokenQuery) (path : String)
    (definitions : List Definition) : List CallSite :=
  if l.compiles broken .calls then
    let callers := definitions.filter (·.kind.isCallable)
    let calls := (((l.query? .calls).map (·.run src)).getD []).filterMap src.call?
    Sorting.sort CallSite.le ((src.distinctCalls calls).map (src.callSite path callers))
  else []

end SourceTree

/-- The reports on the queries that do not compile, in the order of running. -/
def Language.queryErrors (l : Language) (broken : List BrokenQuery) : List String :=
  (l.queryOrder.filter fun q => !l.compiles broken q).map fun q => q.name ++ ": " ++ compileFailure

/-- What later stages need from a file with a given syntax tree. -/
def ParsedFile.extract (l : Language) (broken : List BrokenQuery) (path content : String)
    (tree : SyntaxTree) : ParsedFile :=
  let src : SourceTree := ⟨tree, content.toUTF8⟩
  let definitions := src.definitions l broken path
  { filePath := path
    language := l.name
    contentHash := Digest.ofText content
    fileSize := Text.length content
    definitions
    callSites := src.callSites l broken path definitions
    hasSyntaxErrors := tree.hasError
    queryErrors := l.queryErrors broken }

end CodeGraph
