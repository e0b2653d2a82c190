import DocSchema.Document
import DocSchema.Report.Console

/-!
# The report on several documents

Documents are validated against one schema, in order until a rule says to stop; what is left then
is skipped.
-/
namespace DocSchema

/-- What came of a document. -/
inductive Finding where
  | valid
  | invalid (failure : Failure)
  /-- The document cannot be loaded. -/
  | unloadable (cause : LoadError)
deriving DecidableEq, Repr

/-- The document conforms. -/
def Finding.isValid : Finding → Bool
  | valid => true
  | _ => false

/-- A document and what came of it. -/
structure DocumentReport where
  path : String
  finding : Finding
deriving DecidableEq, Repr

/-- What came of the documents that were looked at, with the numbers of those that were looked at,
that failed, and that were not looked at. -/
structure ValidationReport where
  schema : String
  checked : Nat
  failed : Nat
  skipped : Nat
  documents : List DocumentReport
deriving DecidableEq, Repr

/-- What comes of the document at a path. -/
def Schema.inspect (s : Schema) (files : Files) (path : String) : Finding :=
  match loadDocument files path with
  | .error e => .unloadable e
  | .ok d =>
    match s.validate d with
    | .ok _ => .valid
    | .error f => .invalid f

namespace ValidationReport

/-- Looks at documents until the rule says to stop, given the number of those that failed so far:
what came of them, and how many have failed then. -/
def walk (look : String → Finding) (rule : StopRule) (failed : Nat) :
    List String → List DocumentReport × Nat
  | [] => ([], failed)
  | path :: rest =>
    let finding := look path
    let failed := if finding.isValid then failed else failed + 1
    if rule.stopsAt failed then ([⟨path, finding⟩], failed)
    else
      let (documents, failed) := walk look rule failed rest
      (⟨path, finding⟩ :: documents, failed)

/-- The report on documents. -/
def ofPaths (schema : String) (look : String → Finding) (rule : StopRule) (paths : List String) :
    ValidationReport :=
  let (documents, failed) := walk look rule 0 paths
  { schema, checked := documents.length, failed, skipped := paths.length - documents.length,
    documents }

/-- The number of documents that conform. -/
def passed (r : ValidationReport) : Nat := r.checked - r.failed

/-! ## Showing the report -/

/-- A document for programs. -/
def documentJson (d : DocumentReport) : Json :=
  let rest := match d.finding with
    | .valid => []
    | .invalid f => [("error", f.toJson)]
    | .unloadable e => [("load_error", .string e.message)]
  .object ([("path", .string d.path), ("valid", .bool d.finding.isValid)] ++ rest)

/-- The report for programs. -/
def toJson (r : ValidationReport) : Json :=
  .object [("schema", .string r.schema), ("checked", .nat r.checked), ("failed", .nat r.failed),
    ("skipped", .nat r.skipped), ("documents", .array (r.documents.map documentJson))]

/-- How many documents conform. -/
def summary (r : ValidationReport) : String := s!"{r.passed} of {r.checked} document(s) valid"

/-- What is written about a document for people. -/
def documentWrites (c : Console) (d : DocumentReport) : List String :=
  match d.finding with
  | .valid => [c.success s!"✓ {d.path}"]
  | .invalid f => [c.error s!"✗ {d.path}", c.failure f]
  | .unloadable e => [c.error s!"✗ {d.path}: {e.message}"]

/-- What is written for people, one call after the other. -/
def writes (r : ValidationReport) (c : Console) : List String :=
  r.documents.flatMap (documentWrites c) ++
    (if 0 < r.skipped then [c.warning s!"{r.skipped} document(s) skipped after stopping early"]
      else []) ++
    [if r.failed = 0 then c.success r.summary else c.error r.summary]

end ValidationReport
end DocSchema
