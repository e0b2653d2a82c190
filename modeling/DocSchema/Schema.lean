import DocSchema.Validator.Run

/-!
# Schemas

The requirements on whole documents, one document at a time or several in a row.
-/
namespace DocSchema

/-- The requirements on a document. -/
structure Schema where
  root : ObjectValidator := {}

/-- When several documents are validated, when to stop early. -/
structure StopRule where
  /-- Stop at the first failure. -/
  failFast : Bool := false
  /-- Stop at so many failures; zero sets no bound. -/
  maxErrors : Nat := 0
deriving DecidableEq, Repr

/-- So many failures are enough to stop. -/
def StopRule.stopsAt (rule : StopRule) (failures : Nat) : Bool :=
  0 < failures && (rule.failFast || (0 < rule.maxErrors && rule.maxErrors ≤ failures))

namespace Schema

/-- Validates a document: what the checks recorded, or the failure. -/
def validate (s : Schema) (document : Json) : Except Failure Context :=
  match s.root.validate document ⟨"", none⟩ Context.empty with
  | (.ok (), c) => .ok c
  | (.error f, _) => .error f

/-- Goes through documents from a number on, with the failures met so far, last first: the
records of the accepted documents and the failures, until the rule says to stop. -/
def collect (s : Schema) (rule : StopRule) (number failed : Nat) :
    List Json → List Context × List DocumentFailure
  | [] => ([], [])
  | d :: ds =>
    match s.validate d with
    | .ok c =>
      let (contexts, failures) := collect s rule (number + 1) failed ds
      (c :: contexts, failures)
    | .error f =>
      if rule.stopsAt (failed + 1) then ([], [⟨number, f⟩])
      else
        let (contexts, failures) := collect s rule (number + 1) (failed + 1) ds
        (contexts, ⟨number, f⟩ :: failures)

/-- Validates several documents: the records of all of them, or the failures. -/
def validateAll (s : Schema) (rule : StopRule) (documents : List Json) :
    Except FailureList (List Context) :=
  match collect s rule 0 0 documents with
  | (contexts, []) => .ok contexts
  | (_, failures) => .error ⟨failures⟩

end Schema
end DocSchema
