import CodeGraph.Toml.Scalar

/-!
# Reading TOML documents

Statements one after the other, each changing the document read so far. Tables that a header or a
dotted key has opened, and values written inline, are remembered, because neither may be opened
again.

## Main definitions

* `Toml.readValue`: a value at the front of the text.
* `Toml.Document`: what was read so far, with the restrictions on what may follow.
* `Toml.Limits`: how large a document may be.
* `Toml.parse`: the table of a document, or why it is not read.
-/

namespace CodeGraph.Toml

/-! ### Keys -/

/-- A code point of a bare key. -/
def isBareKey (c : Char) : Bool :=
  c.isAlphanum || c = '-' || c = '_'

/-- One part of a key. -/
def readKeyPart (cs : List Char) : Outcome String :=
  match cs with
  | [] => .error ⟨.keyPart, []⟩
  | c :: rest =>
    if isBareKey c then .ok (String.ofList (cs.takeWhile isBareKey), cs.dropWhile isBareKey)
    else if c = '\'' then readLiteral rest
    else if c = '"' then readBasic false (rest.length + 1) [] rest
    else .error ⟨.keyPart, cs⟩

/-- The parts of a key from a part on, with the space after it; `acc` holds the earlier ones. -/
def readKeyFrom : (fuel : Nat) → (acc : List String) → List Char → Outcome Key
  | 0, _, cs => .error ⟨.keyPart, cs⟩
  | fuel + 1, acc, cs =>
    match readKeyPart cs with
    | .error e => .error e
    | .ok (part, rest) =>
      match rest.dropWhile isSpace with
      | '.' :: rest' => readKeyFrom fuel (part :: acc) (rest'.dropWhile isSpace)
      | rest' => .ok ((part :: acc).reverse, rest')

/-- A dotted key and the space after it. -/
def readKey (cs : List Char) : Outcome Key :=
  readKeyFrom (cs.length + 1) [] cs

/-- A key up to and including its equals sign and the space after that. -/
def readKeyEquals (cs : List Char) : Outcome Key :=
  match readKey cs with
  | .error e => .error e
  | .ok (key, '=' :: rest) => .ok (key, rest.dropWhile isSpace)
  | .ok (_, rest) => .error ⟨.equals, rest⟩

/-! ### Values -/

/-- Whether a value is an inline array or table. -/
def isCollection : Toml → Bool
  | list _ => true
  | table _ => true
  | _ => false

/-- Whether a key lies at or below one of the given keys. -/
def isBelow (keys : List Key) (key : Key) : Bool :=
  keys.any fun k => !k.isEmpty && k.isPrefixOf key

/-- Add an entry to a table unless its key is taken. -/
def addEntry (taken : FaultKind) (name : String) (v : Toml) (t : Entries) :
    Except FaultKind Entries :=
  if (t.lookup name).isSome then .error taken else .ok (t ++ [(name, v)])

/-- How large a document may be. -/
structure Limits where
  /-- How many digits a decimal whole number may have. -/
  digits : Nat
  /-- How deep values may be nested: an array counts two, an inline table three. -/
  depth : Nat

/-- What an array adds to the depth of its items: the frames of the stack that it takes. -/
def arrayDepth : Nat := 2

/-- What an inline table adds to the depth of its values: the frames of the stack that it takes. -/
def inlineDepth : Nat := 3

/-- A number. -/
def readNumber (maxDigits : Nat) (cs : List Char) : Outcome Toml :=
  match readPrefixed? cs with
  | some r => .ok r
  | none =>
    match readDecimal? cs with
    | some (n, rest) =>
      if !n.isWhole then .ok (float n.toDouble, rest)
      else if maxDigits < n.whole.length then .error ⟨.tooManyDigits, cs⟩
      else .ok (int n.toInt, rest)
    | none =>
      match readSpecial? cs with
      | some r => .ok r
      | none => .error ⟨.value, cs⟩

/-- Text, truth values, dates, times and numbers. -/
def readScalar (maxDigits : Nat) (cs : List Char) : Outcome Toml :=
  if begins "\"\"\"" cs then (readMultiline '"' (cs.drop 3)).map fun (s, r) => (text s, r)
  else if begins "\"" cs then
    (readBasic false (cs.length + 1) [] (cs.drop 1)).map fun (s, r) => (text s, r)
  else if begins "'''" cs then (readMultiline '\'' (cs.drop 3)).map fun (s, r) => (text s, r)
  else if begins "'" cs then (readLiteral (cs.drop 1)).map fun (s, r) => (text s, r)
  else if begins "true" cs then .ok (bool true, cs.drop 4)
  else if begins "false" cs then .ok (bool false, cs.drop 5)
  else match readDate? cs with
    | some (true, rest) => .ok (moment, rest)
    | some (false, _) => .error ⟨.date, cs⟩
    | none =>
      match skipTime? cs with
      | some rest => .ok (moment, rest)
      | none => readNumber maxDigits cs

section

variable (l : Limits)

mutual

/-- The value at the front of the text, at a depth. -/
def readValue : (fuel depth : Nat) → List Char → Outcome Toml
  | 0, _, cs => .error ⟨.value, cs⟩
  | fuel + 1, depth, cs =>
    match cs with
    | '[' :: rest =>
      if l.depth < depth + arrayDepth then .error ⟨.tooDeep, cs⟩
      else match skipLines (rest.length + 1) rest with
        | .error e => .error e
        | .ok (']' :: rest') => .ok (list [], rest')
        | .ok rest' => readItems fuel (depth + arrayDepth) [] rest'
    | '\x7b' :: rest =>
      if l.depth < depth + inlineDepth then .error ⟨.tooDeep, cs⟩
      else match rest.dropWhile isSpace with
        | '\x7d' :: rest' => .ok (table [], rest')
        | rest' => readInline fuel (depth + inlineDepth) [] [] rest'
    | _ => readScalar l.digits cs

/-- The items of an array up to its closing bracket; `acc` holds the earlier ones in reverse. -/
def readItems : (fuel depth : Nat) → (acc : List Toml) → List Char → Outcome Toml
  | 0, _, _, cs => .error ⟨.value, cs⟩
  | fuel + 1, depth, acc, cs =>
    match readValue fuel depth cs with
    | .error e => .error e
    | .ok (v, rest) =>
      match skipLines (rest.length + 1) rest with
      | .error e => .error e
      | .ok (']' :: rest') => .ok (list (v :: acc).reverse, rest')
      | .ok (',' :: rest') =>
        match skipLines (rest'.length + 1) rest' with
        | .error e => .error e
        | .ok (']' :: rest'') => .ok (list (v :: acc).reverse, rest'')
        | .ok rest'' => readItems fuel depth (v :: acc) rest''
      | .ok rest' => .error ⟨.unclosedArray, rest'⟩

/-- The entries of an inline table up to its closing brace; `frozen` are the keys of collections. -/
def readInline : (fuel depth : Nat) → (acc : Entries) → (frozen : List Key) → List Char →
    Outcome Toml
  | 0, _, _, _, cs => .error ⟨.value, cs⟩
  | fuel + 1, depth, acc, frozen, cs =>
    match readKeyEquals cs with
    | .error e => .error e
    | .ok (key, rest) =>
      match readValue fuel depth rest with
      | .error e => .error e
      | .ok (v, rest) =>
        let name := key.getLast?.getD ""
        let added :=
          if isBelow frozen key then .error (.immutable key)
          else Entries.update FaultKind.overwritten false key.dropLast
            (addEntry (.duplicateKey name) name v) acc
        match added with
        | .error kind => .error ⟨kind, rest⟩
        | .ok acc =>
          match rest.dropWhile isSpace with
          | '\x7d' :: rest' => .ok (table acc, rest')
          | ',' :: rest' =>
            readInline fuel depth acc (if isCollection v then key :: frozen else frozen)
              (rest'.dropWhile isSpace)
          | rest' => .error ⟨.unclosedInlineTable, rest'⟩

end

end

/-! ### Statements -/

/--
What was read so far: the entries, the table that key/value pairs go to, the keys that no header
may open again, those to be added to them at the next header, and the keys of inline collections.
-/
structure Document where
  entries : Entries := []
  header : Key := []
  declared : List Key := []
  pending : List Key := []
  frozen : List Key := []

/-- Open a table. -/
def Document.openTable (doc : Document) (key : Key) : Except FaultKind Document :=
  if doc.declared.contains key || isBelow doc.frozen key then .error (.declaredTwice key)
  else do
    let entries ← Entries.update .overwritten true key .ok doc.entries
    return { doc with entries, header := key, declared := key :: doc.declared }

/-- Add an empty table to the array under a name. -/
def appendTable (name : String) (t : Entries) : Except FaultKind Entries :=
  match t.lookup name with
  | none => .ok (t ++ [(name, list [table []])])
  | some (list items) => .ok (Entries.replace t name (list (items ++ [table []])))
  | some _ => .error .overwritten

/-- Open a new table at the end of an array of tables; what its predecessor forbade is free again. -/
def Document.openArrayTable (doc : Document) (key : Key) : Except FaultKind Document :=
  if isBelow doc.frozen key then .error (.immutable key)
  else do
    let entries ← Entries.update .overwritten true key.dropLast
      (appendTable (key.getLast?.getD "")) doc.entries
    return { doc with
      entries
      header := key
      declared := key :: doc.declared.filter fun k => !key.isPrefixOf k
      frozen := doc.frozen.filter fun k => !key.isPrefixOf k }

/-- Nothing between two headers may reopen the tables that dotted keys created before. -/
def Document.settle (doc : Document) : Document :=
  { doc with declared := doc.pending ++ doc.declared, pending := [] }

/-- The tables that a dotted key passes through, below the current header. -/
def Document.passed (doc : Document) (key : Key) : List Key :=
  (List.range (key.length - 1)).map fun i => doc.header ++ key.take (i + 1)

/-- Add a key/value pair. -/
def Document.assign (doc : Document) (key : Key) (v : Toml) : Except FaultKind Document :=
  let passed := doc.passed key
  let parent := doc.header ++ key.dropLast
  let name := key.getLast?.getD ""
  match passed.find? doc.declared.contains with
  | some k => .error (.redefined k)
  | none =>
    if isBelow doc.frozen parent then .error (.immutable parent)
    else do
      let entries ← Entries.update .overwritten true parent (addEntry .overwritten name v)
        doc.entries
      return { doc with
        entries
        pending := passed ++ doc.pending
        frozen := if isCollection v then (doc.header ++ key) :: doc.frozen else doc.frozen }

/-- Attach the place of a fault. -/
def located {α : Type} (rest : List Char) : Except FaultKind α → Except Fault α
  | .ok a => .ok a
  | .error kind => .error ⟨kind, rest⟩

/-- A header of an array of tables, after its opening brackets. -/
def readArrayHeader (doc : Document) (cs : List Char) : Except Fault (Document × List Char) := do
  let (key, rest) ← readKey (cs.dropWhile isSpace)
  let doc ← located rest (doc.openArrayTable key)
  if begins "]]" rest then return (doc, rest.drop 2)
  else throw ⟨.arrayTableEnd, rest⟩

/-- A header of a table, after its opening bracket. -/
def readTableHeader (doc : Document) (cs : List Char) : Except Fault (Document × List Char) := do
  let (key, rest) ← readKey (cs.dropWhile isSpace)
  let doc ← located rest (doc.openTable key)
  if begins "]" rest then return (doc, rest.drop 1)
  else throw ⟨.tableEnd, rest⟩

/-- A key/value pair. -/
def readPair (l : Limits) (doc : Document) (cs : List Char) : Except Fault (Document × List Char) := do
  let (key, rest) ← readKeyEquals cs
  let (v, rest) ← readValue l (2 * rest.length + 2) 0 rest
  let doc ← located rest (doc.assign key v)
  return (doc, rest)

/-- The statement at the front of a line that is not empty, up to its comment. -/
def readStatement (l : Limits) (doc : Document) (cs : List Char) : Outcome Document :=
  match cs with
  | '[' :: '[' :: rest => readArrayHeader doc.settle rest
  | '[' :: rest => readTableHeader doc.settle rest
  | c :: _ =>
    if isBareKey c || c = '"' || c = '\'' then readPair l doc cs
    else if c = '#' then .ok (doc, cs)
    else .error ⟨.statement, cs⟩
  | [] => .ok (doc, cs)

/-- All statements of a text. -/
def readStatements (l : Limits) : (fuel : Nat) → Document → List Char → Except Fault Document
  | 0, doc, _ => .ok doc
  | fuel + 1, doc, cs =>
    match cs.dropWhile isSpace with
    | [] => .ok doc
    | '\n' :: rest => readStatements l fuel doc rest
    | line =>
      match readStatement l doc line with
      | .error e => .error e
      | .ok (doc, rest) =>
        match skipComment (rest.dropWhile isSpace) with
        | .error e => .error e
        | .ok [] => .ok doc
        | .ok ('\n' :: rest') => readStatements l fuel doc rest'
        | .ok rest' => .error ⟨.lineEnd, rest'⟩

/-- Add a character to the reversed text before it; a line feed takes a carriage return away. -/
def addUnified (before : List Char) (c : Char) : List Char :=
  if c = '\n' && before.head? = some '\r' then c :: before.tail else c :: before

/-- Line ends written as carriage return and line feed count as line feeds. -/
def unifyLineEnds (cs : List Char) : List Char :=
  (cs.foldl addUnified []).reverse

/-- The table of a document, or why it is not read. -/
def parse (l : Limits) (document : String) : Except Failure Entries :=
  let cs := unifyLineEnds document.toList
  match readStatements l (cs.length + 1) {} cs with
  | .ok doc => .ok doc.entries
  | .error fault => .error (fault.toFailure cs)

end CodeGraph.Toml
