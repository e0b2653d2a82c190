import DocSchema.Text.Blank

/-!
# Lines of the schema notation

A line declares one field: tabs for its depth, its name, a colon and its type, with blanks around
the colon.
-/
namespace DocSchema

/-- The declaration of a field. -/
structure Line where
  depth : Nat
  name : String
  token : String
deriving DecidableEq, Repr

namespace Line

/-- Characters of field names. -/
def isNameChar (c : Char) : Bool := c.isAlphanum || c = ' '

/-- Reads a line. The first colon ends the name; blanks at the end of the name do not belong to it.
The type is not empty and has no blanks. -/
def read? (text : List Char) : Option Line :=
  let tabs := text.takeWhile (· = '\t')
  let declaration := text.dropWhile (· = '\t')
  let name := trimEnd (declaration.takeWhile (· ≠ ':'))
  match declaration.dropWhile (· ≠ ':') with
  | [] => none
  | _ :: rest =>
    let token := trimStart rest
    if name.all isNameChar ∧ token ≠ [] ∧ token.all (!isBlank ·) then
      some ⟨tabs.length, String.ofList name, String.ofList token⟩
    else none

/-- Writes a line without its end; nothing stands around the colon. -/
def write (l : Line) : List Char :=
  List.replicate l.depth '\t' ++ l.name.toList ++ ':' :: l.token.toList

end Line
end DocSchema
