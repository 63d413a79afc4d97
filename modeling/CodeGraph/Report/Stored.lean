import CodeGraph.Reading

/-!
# Stored reports

A report that was written out can be read back as a document: every field is checked for its kind,
numbers may be written as text, and absent fields take their defaults. The result stays a document,
because a report of another engine may name kinds of findings that this library does not know.

## Main definitions

* `FormField`, `Reading.form`: documents with named fields, in the order of their declaration.
* `storedReport`, `storedIntegrityReport`: the reports.
* `storedViolation`, `storedFileFailure`, `storedQueryFailure`, `storedUnresolvedImport`,
  `storedUnresolvedCall`: their entries.
-/

namespace CodeGraph

open Reading

/-- A field of a form: its name, the reader of its value, and what an absent field stands for. -/
structure FormField where
  name : String
  read : Reading Json
  default? : Option Json := none

/-- Read one field of a form. -/
def FormField.readFrom (f : FormField) (fs : Fields) : Checked (String × Json) :=
  (match f.default? with
  | none => required fs f.name f.read
  | some d => withDefault fs f.name f.read d).map fun v => (f.name, v)

/-- A document with named fields; unknown fields are dropped. -/
def Reading.form (rows : List FormField) : Reading Json := record fun fs =>
  (Checked.sequence (rows.map (·.readFrom fs))).map .object

/-! ### Kinds of fields -/

/-- A text that has to be there. -/
def FormField.text (name : String) : FormField :=
  { name, read := fun v => (Reading.text v).map .text }

/-- A text or null, absent as null. -/
def FormField.optionalText (name : String) : FormField :=
  { name
    read := fun v => (nullable Reading.text v).map fun s => (s.map .text).getD .null
    default? := some .null }

/-- A whole number that has to be there. -/
def FormField.int (name : String) : FormField :=
  { name, read := fun v => (Reading.int v).map .int }

/-- A whole number, zero when absent. -/
def FormField.count (name : String) : FormField :=
  { FormField.int name with default? := some (.int 0) }

/-- A number, zero when absent. -/
def FormField.rate (name : String) : FormField :=
  { name
    read := fun v => (Reading.float v).map .float
    default? := some (.float (.ofInt 0)) }

/-- A list of entries, empty when absent. -/
def FormField.entries (name : String) (entry : Reading Json) : FormField :=
  { name, read := fun v => (list entry v).map .list, default? := some (.list []) }

/-- A list of texts, empty when absent. -/
def FormField.texts (name : String) : FormField :=
  FormField.entries name fun v => (Reading.text v).map .text

/-- Whole numbers by name, empty when absent. -/
def FormField.counts (name : String) : FormField :=
  { name
    read := fun v => (dict Reading.int v).map fun m =>
      .object (m.toList.map fun (k, n) => (k, .int n))
    default? := some (.object []) }

/-- Arbitrary values by name, empty when absent. -/
def FormField.values (name : String) : FormField :=
  { name, read := fun v => (Reading.fields v).map .object, default? := some (.object []) }

/-! ### Entries and reports -/

/-- A file that gave no parse result. -/
def storedFileFailure : Reading Json :=
  form [.text "path", .text "error", .text "reason"]

/-- A query that was skipped for a file. -/
def storedQueryFailure : Reading Json :=
  form [.text "path", .text "language", .text "query", .text "reason"]

/-- An import without a target. -/
def storedUnresolvedImport : Reading Json :=
  form [.text "file_path", .text "module", .count "line"]

/-- A call without a target. -/
def storedUnresolvedCall : Reading Json :=
  form [.text "file_path", .int "line", .text "called_name", .optionalText "receiver",
    .optionalText "caller"]

/-- A relationship whose node at one end is missing. -/
def storedViolation : Reading Json :=
  form [
    { FormField.text "kind" with default? := some (.text "ReferentialIntegrityViolation") },
    .text "relationship_id", .text "rel_type", .text "missing_endpoint", .text "node_id"]

/-- The findings for a graph. -/
def storedIntegrityReport : Reading Json :=
  form [.entries "violations" storedViolation, .texts "unflagged_files",
    .counts "isolated_node_counts", .count "node_count", .count "relationship_count"]

/-- The report on an ingestion. -/
def storedReport : Reading Json :=
  form [.count "files_processed", .count "files_failed", .count "files_skipped",
    .counts "skipped_by_reason", .counts "definitions_by_type", .count "duplicate_definitions",
    .count "imports_total", .count "imports_resolved", .rate "import_resolution_rate",
    .entries "unresolved_imports" storedUnresolvedImport, .rate "call_resolution_rate",
    .counts "call_stats", .entries "unresolved_calls" storedUnresolvedCall,
    .count "heritage_resolved", .count "heritage_unresolved",
    .entries "parse_failures" storedFileFailure, .entries "query_failures" storedQueryFailure,
    .entries "integrity_violations" storedViolation, .texts "unflagged_files",
    .counts "isolated_node_counts", .counts "node_counts", .counts "relationship_counts",
    .values "cache_stats", .rate "elapsed_seconds"]

end CodeGraph
