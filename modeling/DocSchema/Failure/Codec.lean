import DocSchema.Failure
import DocSchema.Json.Printer
import DocSchema.Json.Shape

/-!
# Failures as JSON

Failures are written with their fields in a fixed order, and read back. An absent index or kind is
written as null and may be left out.
-/
namespace DocSchema
open Json (nat ofOption)

/-! ## Writing -/

/-- A trace element as an object. -/
def TraceElement.toJson (e : TraceElement) : Json :=
  .object [
    ("validator", .string e.validator),
    ("field", .string e.field),
    ("index", ofOption (e.index.map nat)),
    ("reason", .string e.reason.label),
    ("found", ofOption (e.found.map .string))]

/-- A failure as an object. -/
def Failure.toJson (f : Failure) : Json :=
  .object [("trace", .array (f.trace.map TraceElement.toJson))]

/-- The failure of a document as an object. -/
def DocumentFailure.toJson (f : DocumentFailure) : Json :=
  .object [("document", nat f.document), ("error", f.failure.toJson)]

/-- Failures as an object. -/
def FailureList.toJson (l : FailureList) : Json :=
  .object [("errors", .array (l.failures.map DocumentFailure.toJson))]

/-! ## Reading -/

namespace Failure.Codec
open Json.Shape

/-- The value of a field of a record in a serialized failure. -/
inductive Part where
  | text (s : String)
  | index (i : Option Nat)
  | reason (r : Reason)
  | found (s : Option String)
  | trace (es : List TraceElement)
  | document (n : Nat)
  | error (f : Failure)
  | errors (fs : List DocumentFailure)

/-- Reads a value as a part. -/
def as {α : Type} (part : α → Part) (read : Read α) : Read Part := fun s =>
  (read s).map fun (v, rest) => (part v, rest)

/-- Reads a record and builds a value from its fields. -/
def build {α : Type} (shape : List (FieldReader Part)) (make : List (Option Part) → Option α) :
    Read α := fun s =>
  match fields shape s with
  | .ok (parts, rest) =>
    match make parts with
    | some v => .ok (v, rest)
    | none => mismatch rest
  | .error stop => .error stop

/-- The fields of a trace element. -/
def elementShape : List (FieldReader Part) := [
  ("validator", as .text text),
  ("field", as .text text),
  ("index", as .index (optional natural)),
  ("reason", as .reason (name Reason.ofLabel?)),
  ("found", as .found (optional text))]

/-- A trace element from its fields. -/
def makeElement : List (Option Part) → Option TraceElement
  | [some (.text validator), some (.text field), index, some (.reason reason), found] =>
    let index := match index with
      | some (.index i) => i
      | _ => none
    let found := match found with
      | some (.found s) => s
      | _ => none
    some { validator, field, index, reason, found }
  | _ => none

/-- A trace element. -/
def element : Read TraceElement := build elementShape makeElement

/-- A failure. -/
def failure : Read Failure :=
  build [("trace", as .trace (many element))] fun
    | [some (.trace es)] => some ⟨es⟩
    | _ => none

/-- The failure of a document. -/
def documentFailure : Read DocumentFailure :=
  build [("document", as .document natural), ("error", as .error failure)] fun
    | [some (.document n), some (.error f)] => some ⟨n, f⟩
    | _ => none

/-- Failures of several documents. -/
def failureList : Read FailureList :=
  build [("errors", as .errors (many documentFailure))] fun
    | [some (.errors fs)] => some ⟨fs⟩
    | _ => none

end Failure.Codec

/-- A trace element from JSON text. -/
def TraceElement.ofText? (s : String) : Option TraceElement :=
  Json.Shape.ofText? Failure.Codec.element s

/-- A failure from JSON text. -/
def Failure.ofText? (s : String) : Option Failure := Json.Shape.ofText? Failure.Codec.failure s

/-- Failures of several documents from JSON text. -/
def FailureList.ofText? (s : String) : Option FailureList :=
  Json.Shape.ofText? Failure.Codec.failureList s

end DocSchema
