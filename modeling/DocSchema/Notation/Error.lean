/-!
# Why a text is no schema
-/
namespace DocSchema

/-- A fault in a schema text, with the number of its line where there is one. -/
inductive SchemaError where
  /-- A line is not valid UTF-8. -/
  | undecodable
  /-- A line declares no field. -/
  | malformed (line : Nat) (text : String)
  /-- A line is deeper than the object before it allows. -/
  | indentation (line : Nat)
  /-- A type is neither built in nor registered. -/
  | unknownType (line : Nat) (token : String)
  /-- A pattern is no regular expression. -/
  | invalidPattern (line : Nat) (pattern : String)
deriving DecidableEq, Repr

/-- What is said about bytes that are not valid UTF-8. -/
def undecodableText : String := "stream did not contain valid UTF-8"

namespace SchemaError

/-- The number of the line at fault. -/
def line? : SchemaError → Option Nat
  | undecodable => none
  | malformed n _ | indentation n | unknownType n _ | invalidPattern n _ => some n

/-- The part of the line at fault. -/
def detail? : SchemaError → Option String
  | undecodable | indentation _ => none
  | malformed _ text | unknownType _ text | invalidPattern _ text => some text

/-- The fault in words. What is wrong with a pattern is left open. -/
def message : SchemaError → String
  | undecodable => undecodableText
  | malformed n text => s!"Syntax error at line {n} ( \"{text}\" )"
  | indentation n => s!"Unexpected indentation at line {n}"
  | unknownType n token => s!"Unknown validator type \"{token}\" at line {n}"
  | invalidPattern n pattern => s!"Invalid regex \"{pattern}\" at line {n}: "

end SchemaError
end DocSchema
