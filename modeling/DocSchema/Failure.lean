import DocSchema.Json

/-!
# Failures

Why a document was rejected, and where. A failure is the trace of the validators around the fault,
innermost first; its path names the members and array positions from the root to the fault.
-/
namespace DocSchema

/-- What a validator in a trace has to do with the fault. -/
inductive Reason where
  | rejected | missingField | notAnArray | hookRejected | nested
deriving DecidableEq, Repr

/-- The word for a reason in a serialized failure. -/
def Reason.label : Reason → String
  | .rejected => "rejected"
  | .missingField => "missing_field"
  | .notAnArray => "not_an_array"
  | .hookRejected => "hook_rejected"
  | .nested => "nested"

/-- All reasons. -/
def Reason.all : List Reason := [.rejected, .missingField, .notAnArray, .hookRejected, .nested]

/-- The reason of a word. -/
def Reason.ofLabel? (label : String) : Option Reason := Reason.all.find? (·.label = label)

@[simp] theorem Reason.ofLabel?_label (r : Reason) : Reason.ofLabel? r.label = some r := by
  cases r <;> rfl

/-- The name of the member that a value is, and its index if it is an element of that member. The
document itself has the empty name. -/
structure Position where
  name : String
  index : Option Nat := none
deriving DecidableEq, Repr

/-- One validator of a trace: its type, the position of its value, and the kind of that value. -/
structure TraceElement where
  validator : String
  field : String
  index : Option Nat
  reason : Reason
  found : Option String
deriving DecidableEq, Repr

namespace TraceElement

/-- A validator at a value. -/
def atNode (validator : String) (node : Json) (pos : Position) (reason : Reason) : TraceElement :=
  { validator, field := pos.name, index := pos.index, reason, found := some node.kind.label }

/-- A validator whose value is missing. -/
def missing (validator field : String) : TraceElement :=
  { validator, field, index := none, reason := .missingField, found := none }

/-- The value is an element of an array. -/
def isArrayElement (e : TraceElement) : Bool := e.index.isSome

/-- The text of an index. -/
def indexText (i : Nat) : String := "[" ++ String.ofList (Nat.toDigits 10 i) ++ "]"

/-- The step of a path that the element is; none for the document itself. -/
def segment (e : TraceElement) : Option String :=
  match e.index with
  | some i => some (e.field ++ indexText i)
  | none => if e.field = "" then none else some e.field

end TraceElement

/-- The validators around a fault, innermost first. -/
structure Failure where
  trace : List TraceElement := []
deriving DecidableEq, Repr, Inhabited

namespace Failure

/-- The failure of one validator. -/
def single (e : TraceElement) : Failure := ⟨[e]⟩

/-- Adds the validator around those in the trace. -/
def within (f : Failure) (e : TraceElement) : Failure := ⟨f.trace ++ [e]⟩

/-- The validator that failed. -/
def innermost (f : Failure) : Option TraceElement := f.trace.head?

/-- The reason of the validator that failed. -/
def reason (f : Failure) : Option Reason := f.innermost.map (·.reason)

/-- The steps from the root to the fault. -/
def segments (f : Failure) : List String := f.trace.reverse.filterMap TraceElement.segment

/-- The steps from the root to the fault with dots between them. -/
def path (f : Failure) : String := ".".intercalate f.segments

/-- The path, or a word for the root. -/
def location (f : Failure) : String := if f.path = "" then "<root>" else f.path

/-- The fault in one sentence. -/
def describe (f : Failure) : String :=
  match f.innermost with
  | none => s!"{f.location}: validation failed"
  | some e =>
    let found := e.found.getD "nothing"
    match e.reason with
    | .missingField => s!"{f.location}: required field is missing (expected {e.validator})"
    | .notAnArray => s!"{f.location}: expected an array, found {found}"
    | .hookRejected => s!"{f.location}: rejected by {e.validator} validator"
    | .rejected | .nested => s!"{f.location}: expected {e.validator}, found {found}"

@[simp] theorem trace_within (f : Failure) (e : TraceElement) :
    (f.within e).trace = f.trace ++ [e] := rfl

end Failure

/-- The failure of one document of several. -/
structure DocumentFailure where
  document : Nat
  failure : Failure
deriving DecidableEq, Repr

/-- The failures of several documents, in the order of the documents. -/
structure FailureList where
  failures : List DocumentFailure := []
deriving DecidableEq, Repr, Inhabited

namespace FailureList

/-- The number of failures. -/
def size (l : FailureList) : Nat := l.failures.length

/-- No document failed. -/
def isEmpty (l : FailureList) : Bool := l.failures.isEmpty

/-- The failures, one a line. -/
def describe (l : FailureList) : String :=
  l.failures.foldl (fun text f => text ++ s!"\n  [{f.document}] {f.failure.describe}")
    s!"{l.size} document(s) failed validation:"

end FailureList
end DocSchema
