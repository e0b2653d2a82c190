import DocSchema.Pattern.Reader

/-!
# Patterns

Regular expressions that were found valid. A pattern keeps its text, and its expression is the one
that the text denotes, so that two patterns with one text are the same pattern.
-/
namespace DocSchema

/-- A valid regular expression. -/
structure Pattern where
  text : String
  expr : Expr
  /-- The expression is what the text denotes. -/
  read_eq : Pattern.read? text = some expr

namespace Pattern

/-- The pattern of a text; none if the text is no regular expression. -/
def compile? (text : String) : Option Pattern :=
  match h : read? text with
  | some expr => some ⟨text, expr, h⟩
  | none => none

/-- The pattern occurs somewhere in a text. -/
def occursIn (p : Pattern) (text : String) : Bool := p.expr.search text.toList

@[ext] theorem ext {p q : Pattern} (h : p.text = q.text) : p = q := by
  obtain ⟨text, expr, hp⟩ := p
  obtain ⟨text', expr', hq⟩ := q
  obtain rfl : text = text' := h
  obtain rfl : expr = expr' := by simpa [hp] using hq
  rfl

/-- Compiling keeps the text. -/
theorem text_of_compile? {text : String} {p : Pattern} (h : compile? text = some p) :
    p.text = text := by
  unfold compile? at h
  split at h <;> simp_all
  exact h ▸ rfl

/-- A pattern is what its text compiles to. -/
@[simp] theorem compile?_text (p : Pattern) : compile? p.text = some p := by
  unfold compile?
  split
  · exact congrArg some (ext rfl)
  · simp_all [p.read_eq]

end Pattern
end DocSchema
