import DocSchema.Diff.Unified
import DocSchema.Report.Console

/-!
# The report on the form of a schema text

Whether the text is canonical, its canonical form, and the lines in which the two differ.
-/
namespace DocSchema

/-- A schema text and its canonical form. -/
structure CanonicalReport where
  schema : String
  found : String
  formatted : String
deriving DecidableEq, Repr

namespace CanonicalReport

/-- The text is in canonical form. -/
def isCanonical (r : CanonicalReport) : Bool := r.found = r.formatted

/-- The report for programs. -/
def toJson (r : CanonicalReport) : Json :=
  .object [("schema", .string r.schema), ("canonical", .bool r.isCanonical),
    ("formatted", .string r.formatted)]

/-- The lines in which the text differs from its canonical form. -/
def diff (r : CanonicalReport) : List Char :=
  Diff.unified r.schema (r.schema ++ " (canonical)") r.found.toList r.formatted.toList

/-- Whether the text is canonical, for people. -/
def verdictText (r : CanonicalReport) (c : Console) : String :=
  if r.isCanonical then c.success s!"✓ {r.schema} is in canonical form"
  else String.ofList (if c.color then Diff.colored r.diff else r.diff)

/-- The report for people: the canonical form, or where only a verdict is asked for, the verdict. -/
def text (r : CanonicalReport) (onlyVerdict : Bool) (c : Console) : String :=
  if onlyVerdict then r.verdictText c else r.formatted

end CanonicalReport
end DocSchema
