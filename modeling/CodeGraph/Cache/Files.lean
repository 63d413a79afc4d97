import CodeGraph.Cache.Region
import CodeGraph.Digest
import CodeGraph.Json.Printer
import CodeGraph.Reading.Records
import CodeGraph.Tree.Basic

/-!
# Cached parse results

Parse results under the path and content digest of their source. A result is checked against its key
on every look-up: an entry that answers for another source is a corruption.

## Main definitions

* `Cache.Source`: the key of a result.
* `Cache.Corruption`: how an entry fails to match its key.
* `Cache.Files.get`, `Cache.Files.put`, `Cache.Files.getOrParse`: the operations.
* `Cache.Files.relieve`: eviction down to the low-water mark.
-/

namespace CodeGraph.Cache

/-- A version of a file. -/
structure Source where
  path : String
  contentHash : String
deriving DecidableEq, Repr, Inhabited

/-- A stored parse result. -/
structure StoredFile where
  /-- The version that the entry says it belongs to. -/
  source : Source
  parsed : ParsedFile
  tree : Option SyntaxTree := none
  /-- Digest of the result, if results are verified. -/
  checksum : String := ""
deriving Inhabited

/-- How an entry fails to match its key. -/
inductive Corruption where
  | wrongEntry (stored : Source)
  | wrongPayload
  | wrongChecksum
deriving DecidableEq, Repr, Inhabited

/-- The wording of a corruption. -/
def Corruption.reason : Corruption → String
  | wrongEntry stored =>
    "entry stored for (" ++ stored.path ++ ", " ++ Text.take 12 stored.contentHash ++ ")"
  | wrongPayload => "parsed payload does not match its key"
  | wrongChecksum => "checksum mismatch"

/-- Bytes that a result takes for each code point of its source. -/
def bytesPerSourceByte : Int := 8

/-- Size of a result; an empty source counts as one code point. -/
def entrySize (parsed : ParsedFile) : Int :=
  max parsed.fileSize 1 * bytesPerSourceByte

/-- Digest of a result. -/
def checksum (parsed : ParsedFile) : String :=
  Digest.ofText parsed.toJson.compact

/-- The parse results of some versions of files. -/
structure Files where
  region : Region Source StoredFile
  /-- The size that relieving memory pressure goes down to; a budget out of range has none. -/
  lowWater : Option Int
  /-- Whether results are compared with their digests. -/
  verify : Bool := false

namespace Files

/-- No results yet, within bounds on entries and bytes; relieving goes down to three quarters. -/
def empty (maxEntries maxBytes : Int) (verify : Bool) : Files where
  region := { maxEntries, maxBytes := some maxBytes }
  lowWater := Double.threeQuarters? maxBytes
  verify

/-- What is wrong with an entry under a key. -/
def corruption? (c : Files) (key : Source) (e : StoredFile) : Option Corruption :=
  if e.source ≠ key then some (.wrongEntry e.source)
  else if e.parsed.filePath ≠ key.path || e.parsed.contentHash ≠ key.contentHash then
    some .wrongPayload
  else if c.verify && e.checksum ≠ checksum e.parsed then some .wrongChecksum
  else none

/-- Look a result up. -/
def get (c : Files) (key : Source) : Except Corruption (Option ParsedFile) × Files :=
  let (found, region) := c.region.get key
  let c' := { c with region }
  match found with
  | none => (.ok none, c')
  | some e =>
    match c.corruption? key e with
    | some fault => (.error fault, c')
    | none => (.ok (some e.parsed), c')

/-- Store a result. -/
def put (c : Files) (key : Source) (parsed : ParsedFile) (tree : Option SyntaxTree := none) :
    Files :=
  let e : StoredFile :=
    { source := key, parsed, tree, checksum := if c.verify then checksum parsed else "" }
  { c with region := c.region.put key e (entrySize parsed) }

/-- Why a result could neither be found nor made. -/
inductive Failure (ε : Type) where
  | corrupted (fault : Corruption)
  | parse (error : ε)
deriving Repr

/-- Look a result up, or make and store it; whether it was found. A failure stores nothing. -/
def getOrParse {ε : Type} (c : Files) (key : Source)
    (parse : Unit → Except ε (ParsedFile × Option SyntaxTree)) :
    Except (Failure ε) (ParsedFile × Bool) × Files :=
  match c.get key with
  | (.error fault, c) => (.error (.corrupted fault), c)
  | (.ok (some parsed), c) => (.ok (parsed, true), c)
  | (.ok none, c) =>
    match parse () with
    | .error e => (.error (.parse e), c)
    | .ok (parsed, tree) => (.ok (parsed, false), c.put key parsed tree)

/-- The syntax tree of a version; the look-up is not counted. -/
def tree? (c : Files) (key : Source) : Option SyntaxTree × Files :=
  let (found, region) := c.region.get key false
  (found.bind StoredFile.tree, { c with region })

/-- Forget all versions of a path. -/
def evict (c : Files) (path : String) : Files :=
  let versions := c.region.keys.filter (·.path = path)
  { c with region := versions.foldl (fun r key => (r.pop key).2) c.region }

/-- Change a stored entry where it stands. -/
def modify (c : Files) (key : Source) (f : StoredFile → StoredFile) : Files :=
  { c with region := c.region.modify key f }

/-- Evict down to a low-water mark; how many results went. -/
def relieve (c : Files) (lowWater : Int) : Files × Nat :=
  let (region, evicted) := c.region.trim lowWater
  ({ c with region }, evicted)

end Files

end CodeGraph.Cache
