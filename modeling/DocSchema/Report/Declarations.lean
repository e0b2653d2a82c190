import DocSchema.Report.Console
import DocSchema.Schema

/-!
# The report on a schema

The fields that the schema declares, each with the path by which a failure would name it. The
elements of an array have no index there, only empty brackets.
-/
namespace DocSchema

/-- A declared field. -/
structure Declaration where
  path : String
  type : String
deriving DecidableEq, Repr

namespace Declaration

/-- The path of a field below a path. -/
def join (above name : String) : String := if above = "" then name else above ++ "." ++ name

mutual

/-- The fields below the validator at a path. -/
def below (path : String) : Validator → List Declaration
  | .leaf _ => []
  | .object _ fields => ofFields path fields
  | .array (.object _ fields) => ofFields (path ++ arraySuffix) fields
  | .array _ => []

/-- Fields below a path, each followed by those below it. -/
def ofFields (above : String) : List (String × Validator) → List Declaration
  | [] => []
  | (name, v) :: rest =>
    ⟨join above name, v.token⟩ :: (below (join above name) v ++ ofFields above rest)

end

/-- The fields of a schema. -/
def ofSchema (s : Schema) : List Declaration := ofFields "" s.root.fields

/-- A field for programs. -/
def toJson (d : Declaration) : Json := .object [("path", .string d.path), ("type", .string d.type)]

end Declaration

/-- The fields of a schema and the types that settings add. -/
structure SchemaReport where
  schema : String
  fields : List Declaration
  customTypes : List String
deriving DecidableEq, Repr

namespace SchemaReport

/-- The report for programs. -/
def toJson (r : SchemaReport) : Json :=
  .object [("schema", .string r.schema), ("valid", .bool true),
    ("fields", .array (r.fields.map Declaration.toJson)),
    ("custom_types", .array (r.customTypes.map .string))]

/-- The table of the fields. -/
def table (r : SchemaReport) : Table where
  headers := ["Path", "Type"]
  rows := r.fields.map fun d => [d.path, d.type]

/-- What is written for people, one call after the other. -/
def writes (r : SchemaReport) (c : Console) : List String :=
  [c.success s!"✓ {r.schema} is valid ({r.fields.length} fields)", c.sectionHead "Fields",
    c.table r.table] ++
    if r.customTypes.isEmpty then []
    else c.sectionHead "Custom Types" :: r.customTypes.map c.info

end SchemaReport
end DocSchema
