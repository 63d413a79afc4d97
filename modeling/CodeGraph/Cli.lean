import CodeGraph.Cli.Arguments
import CodeGraph.Cli.Location
import CodeGraph.Cli.Output
import CodeGraph.Json.Reader

/-!
# Commands

The two commands over a snapshot of a directory: ingestion of a source tree, and the listing of
languages.

## Main definitions

* `World`: the snapshot, the syntax trees of its sources, and the time that an ingestion takes.
* `Fault`: what stops a command without an explanation.
* `Outcome`: everything that a command leaves behind.
* `Cli.run`: the outcome of a list of arguments.
-/

namespace CodeGraph.Cli

/-- What commands work on. -/
structure World where
  snapshot : Snapshot
  forest : Forest := {}
  broken : List BrokenQuery := []
  /-- Seconds that an ingestion takes. -/
  elapsed : Double := .ofInt 0

/-- What stops a command without an explanation. -/
inductive Fault where
  | usage
  | invalidSettings
  | undecodableSettings
  | path (fault : PathFault)
  | markup (fault : Markup.Fault)
  | manifest (fault : Manifest.Fault)
  | tooDeep
  | endless
  | budget
deriving DecidableEq, Repr, Inhabited

/-- What a command leaves behind. -/
structure Outcome where
  exitCode : Nat := 0
  fault : Option Fault := none
  /-- Lines for the terminal, apart from the output. -/
  messages : List String := []
  output : Option Output := none
  /-- Files written, by their places. -/
  written : List (Location × Json) := []

/-- The outcome of a command that a fault stops. -/
def Outcome.stopped (fault : Fault) (messages : List String := []) : Outcome :=
  { exitCode := if fault = .usage then 2 else 1, fault := some fault, messages }

/-- The outcome of a command that explains its failure. -/
def Outcome.failed (messages : List String) : Outcome :=
  { exitCode := 1, messages }

/-! ### Settings -/

/-- The name of the settings file that is used without being asked for. -/
def defaultSettingsFile : String := "kg_ingest_config.json"

/--
How large a settings file may be. Its reader counts levels by itself, so that unlike elsewhere the
bound on nesting does not depend on the stack.
-/
def settingsLimits : Json.Limits :=
  { depth := some 200
    emptyCounts := false
    digits := some 4300
    signCounts := true
    surrogates := false }

/-- The settings in the text of a file. -/
def parseSettings (text : String) : Except Fault Settings :=
  match Json.read Json.builder settingsLimits text with
  | .error _ => .error .invalidSettings
  | .ok v =>
    match Settings.readWith Reading.wideFloat v with
    | .ok settings => .ok settings
    | .failed _ => .error .invalidSettings

/-- The settings in the bytes of a file. -/
def readSettings (bytes : ByteArray) : Except Fault Settings :=
  match readText? bytes with
  | none => .error .undecodableSettings
  | some text => parseSettings text

/-- The settings at a path, if something is there. -/
def settingsAt? (s : Snapshot) (path : String) : Option (Except Fault Settings) :=
  match s.follow path with
  | .error .tooLong => some (.error (.path .tooLong))
  | .error _ => none
  | .ok l =>
    match s.bytesAt? l with
    | some bytes => some (readSettings bytes)
    | none => if s.holdsDirectory l then some (.error (.path .isDirectory)) else none

/-- The settings at the given path, else those of the default file, else the defaults. -/
def loadSettings (s : Snapshot) (path : Option String) : Except Fault Settings :=
  (((present? path).bind (settingsAt? s)) <|> settingsAt? s defaultSettingsFile).getD (.ok {})

/-! ### Ingestion -/

/-- The request for the files below a directory. -/
def requestFor (a : IngestArguments) (root : String) (files : List (String × ByteArray)) :
    Request :=
  let name := Path.name root
  Request.normalized {
    filePaths := files.map Prod.fst
    fileContents := .ofList (files.map fun (path, bytes) => (path, readText bytes))
    options := { directoryFilter := a.directoryFilter, fileExtensions := a.extensions }
    projectName := if name = "" then root else name
    projectRoot := root }

/-- The settings with the number of workers that was asked for, at least one. -/
def withWorkers (settings : Settings) (workers : Option Int) : Settings :=
  match workers with
  | none => settings
  | some n => { settings with maxWorkers := (max 1 n).toNat }

/-- Say something before the outcome; a markup that cannot be shown stops the command. -/
def saying (markup : String) (before : List String) (next : List String → Outcome) : Outcome :=
  match markupLines markup with
  | .error fault => .stopped (.markup fault) before
  | .ok ls => next (before ++ ls)

/-- The outcome of an ingestion that explains why it ends without a graph. -/
def Outcome.explained (name : String) (e : IngestError) (messages : List String) : Outcome :=
  saying ("[red]" ++ name ++ ": " ++ e.message ++ "[/red]") messages .failed

/-- The outcome of an ingestion that ends without a graph. -/
def Outcome.ofError (messages : List String) (e : IngestError) : Outcome :=
  match e with
  | .noFiles | .filteredOut _ => .explained "IngestionConfigError" e messages
  | .cancelled _ => .explained "IngestionCancelled" e messages
  | .corrupted _ _ => .explained "CacheCorruption" e messages
  | .manifest fault => .stopped (.manifest fault) messages
  | .tooDeep | .patterns _ => .stopped .tooDeep messages
  | .endless _ => .stopped .endless messages
  | .budget => .stopped .budget messages

/-- The outcome of printing. -/
def Outcome.ofPrinted (p : Printed) (messages : List String) : Outcome :=
  match p.fault with
  | none => { messages, output := some p.output }
  | some fault => { Outcome.stopped (.markup fault) messages with output := some p.output }

/-- The outcome of a finished ingestion: its graph may be written to a file. -/
def Outcome.ofResult (w : World) (a : IngestArguments) (messages : List String)
    (r : IngestResult) : Outcome :=
  let printed := Printed.ofResult r w.elapsed a.humanize a.graph
  match present? a.output with
  | none => .ofPrinted printed messages
  | some path =>
    match w.snapshot.writable path with
    | .error fault => .stopped (.path fault) messages
    | .ok place =>
      let said := saying ("Graph written to [bold]" ++ path ++ "[/bold]") messages
        (Outcome.ofPrinted printed)
      { said with written := [(place, r.store.graph.toJson)] }

/-- Ingest the files below a directory. -/
def ingestBelow (w : World) (a : IngestArguments) (settings : Settings) (root place : String) :
    Outcome :=
  let files := w.snapshot.walk place (settings.ignorePatterns.map Text.lower)
  let engine : Engine := { settings, forest := w.forest, broken := w.broken }
  saying ("Found [bold]" ++ toString files.length ++ "[/bold] files.") [] fun messages =>
    match (engine.run (requestFor a root files) {} (.ofSettings settings)).1 with
    | .error e => .ofError messages e
    | .ok r => .ofResult w a messages r

/-- The outcome of an ingestion. The heading over its messages is not kept, but must be sound. -/
def ingest (w : World) (a : IngestArguments) : Outcome :=
  match loadSettings w.snapshot a.config with
  | .error fault => .stopped fault
  | .ok settings =>
    let root := w.snapshot.absolute a.path
    match (w.snapshot.below? root).filter w.snapshot.isDirectoryAt with
    | none => saying ("[red]Not a directory: " ++ root ++ "[/red]") [] .failed
    | some place =>
      saying ("[bold blue]kg-ingest[/bold blue]: " ++ root) [] fun _ =>
        ingestBelow w a (withWorkers settings a.workers) root place

/-! ### All commands -/

/-- The outcome of a list of arguments. -/
def run (w : World) (args : List String) : Outcome :=
  match Command.parse args with
  | none => .stopped .usage
  | some .help => {}
  | some (.ingest a) => ingest w a
  | some (.languages humanize) => .ofPrinted (.ofLanguages w.broken humanize) []

end CodeGraph.Cli
