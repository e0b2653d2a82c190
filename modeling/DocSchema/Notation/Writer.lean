import DocSchema.Notation.Line
import DocSchema.Validator

/-!
# Writing the schema notation

Lines declare the fields of an object, each object followed by its own fields one tab deeper.
-/
namespace DocSchema.Notation

mutual

/-- The lines that follow the line of a field: the fields of an object, or of the objects in an
array. -/
def innerLines (depth : Nat) : Validator → List Line
  | .leaf _ => []
  | .object _ fields => fieldLines depth fields
  | .array (.object _ fields) => fieldLines depth fields
  | .array _ => []

/-- The lines of fields at a depth. -/
def fieldLines (depth : Nat) : List (String × Validator) → List Line
  | [] => []
  | (name, v) :: rest =>
    ⟨depth, name, v.token⟩ :: (innerLines (depth + 1) v ++ fieldLines depth rest)

end

/-- The text of lines, each with a line feed. -/
def text (lines : List Line) : List Char := lines.flatMap fun l => l.write ++ ['\n']

/-- The text of an object's fields. -/
def write (o : ObjectValidator) : String := String.ofList (text (fieldLines 0 o.fields))

@[simp] theorem text_nil : text [] = [] := rfl

@[simp] theorem text_cons (l : Line) (ls : List Line) :
    text (l :: ls) = l.write ++ '\n' :: text ls := by
  simp [text]

end DocSchema.Notation
