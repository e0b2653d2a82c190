import DocSchema.Notation.Error
import DocSchema.Notation.Line
import DocSchema.Registry
import DocSchema.Text.Lines
import DocSchema.Text.Utf8

/-!
# Reading the schema notation

A text is read line by line. Objects whose fields are being read wait on a stack; a line closes
those that are deeper than itself. An opened object takes its place among the fields of its parent
at once, and the finished object is put there when it is closed.
-/
namespace DocSchema.Notation

/-- What a type name declares. -/
inductive Declared where
  /-- A field without fields of its own. -/
  | leaf (v : Validator)
  /-- An object, or an array of objects, whose fields follow. -/
  | opens (o : ObjectValidator) (isArray : Bool)

/-- What is wrong with a type name. -/
inductive TokenFault where
  | invalidPattern (pattern : String)
  | unknown
deriving DecidableEq, Repr

/-- The fault of a line from the fault of its type name. -/
def TokenFault.at (line : Nat) (token : String) : TokenFault → SchemaError
  | invalidPattern p => .invalidPattern line p
  | unknown => .unknownType line token

/-- The text after a beginning. -/
def afterPrefix? (start text : String) : Option String :=
  if start.toList.isPrefixOf text.toList then
    some (String.ofList (text.toList.drop start.toList.length))
  else none

/-- The text before an ending. -/
def beforeSuffix? (ending text : String) : Option String :=
  if ending.toList.isSuffixOf text.toList then
    some (String.ofList (text.toList.take (text.toList.length - ending.toList.length)))
  else none

/-- The leaf of a built-in type name. -/
def builtin? (token : String) : Option Leaf :=
  if token = "String" then some .string
  else if token = "Boolean" then some .boolean
  else if token = "Int" then some .int
  else none

/-- What a type name declares: a built-in type, a pattern, an object, or a registered kind. -/
def resolve (r : Registry) (token : String) : Except TokenFault Declared :=
  match builtin? token with
  | some l => .ok (.leaf (.leaf l))
  | none =>
    match afterPrefix? patternPrefix token with
    | some text =>
      match Pattern.compile? text with
      | some p => .ok (.leaf (.leaf (.pattern p)))
      | none => .error (.invalidPattern text)
    | none =>
      let (base, isArray) := match beforeSuffix? arraySuffix token with
        | some base => (base, true)
        | none => (token, false)
      if base = objectToken then .ok (.opens {} isArray)
      else match r.construct? base with
        | some (.inr o) => .ok (.opens o isArray)
        | some (.inl l) => .ok (.leaf (if isArray then .array (.leaf l) else .leaf l))
        | none => .error .unknown

/-- An object whose fields are being read. -/
structure Frame where
  name : String
  isArray : Bool
  object : ObjectValidator

/-- The validator of a frame. -/
def Frame.validator (f : Frame) : Validator :=
  if f.isArray then .array f.object.toValidator else f.object.toValidator

/-- The root object and the open objects inside it, innermost first. -/
structure Building where
  root : ObjectValidator := {}
  frames : List Frame := []

namespace Building

/-- Sets a field of the innermost open object. -/
def set (b : Building) (name : String) (v : Validator) : Building :=
  match b.frames with
  | [] => { b with root := b.root.set name v }
  | f :: fs => { b with frames := { f with object := f.object.set name v } :: fs }

/-- Closes the innermost open object. -/
def close (b : Building) : Building :=
  match b.frames with
  | [] => b
  | f :: fs => { b with frames := fs }.set f.name f.validator

/-- Closes open objects until as many are open as a depth says. -/
def closeTo (depth : Nat) (b : Building) : Building :=
  (List.range (b.frames.length - depth)).foldl (fun b _ => b.close) b

/-- Opens an object as a field of the innermost open one. -/
def enter (b : Building) (name : String) (o : ObjectValidator) (isArray : Bool) : Building :=
  let b := b.set name (.object none [])
  { b with frames := ⟨name, isArray, o⟩ :: b.frames }

/-- Adds what a line declares. -/
def declare (b : Building) (name : String) : Declared → Building
  | .leaf v => b.set name v
  | .opens o isArray => b.enter name o isArray

end Building

/-- Reads a line of a number. -/
def readLine (r : Registry) (number : Nat) (b : Building) (text : List Char) :
    Except SchemaError Building :=
  match Line.read? text with
  | none => .error (.malformed number (String.ofList text))
  | some line =>
    let b := b.closeTo line.depth
    if b.frames.length < line.depth then .error (.indentation number)
    else match resolve r line.token with
      | .error fault => .error (fault.at number line.token)
      | .ok declared => .ok (b.declare line.name declared)

/-- Reads lines from a number on; a line may be missing because its bytes are no text. -/
def readLines (r : Registry) (number : Nat) (b : Building) :
    List (Option (List Char)) → Except SchemaError Building
  | [] => .ok b
  | none :: _ => .error .undecodable
  | some text :: rest =>
    match readLine r number b text with
    | .error e => .error e
    | .ok b => readLines r (number + 1) b rest

/-- The object that lines describe. -/
def readAll (r : Registry) (lines : List (Option (List Char))) :
    Except SchemaError ObjectValidator :=
  (readLines r 1 {} lines).map fun b => (b.closeTo 0).root

/-- The lines of a file; one whose bytes are no text is missing. -/
def linesOfBytes (bytes : Bytes) : List (Option (List Char)) :=
  (Lines.split 10 13 bytes).map fun line => (Bytes.decode? line).map String.toList

/-- The lines of a text. -/
def linesOfText (text : List Char) : List (Option (List Char)) :=
  (Lines.split '\n' '\r' text).map some

/-- Reads the schema of a file. -/
def readBytes (r : Registry) (bytes : Bytes) : Except SchemaError ObjectValidator :=
  readAll r (linesOfBytes bytes)

/-- Reads the schema of a text. -/
def read (r : Registry) (text : String) : Except SchemaError ObjectValidator :=
  readAll r (linesOfText text.toList)

end DocSchema.Notation
