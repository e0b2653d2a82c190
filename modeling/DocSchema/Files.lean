import DocSchema.Keyed
import DocSchema.Notation.Error
import DocSchema.Text.Utf8

/-!
# Files as the program sees them

What a path leads to. A directory tree is one such view; paths are followed through it component
by component.
-/
namespace DocSchema

/-- Why a path cannot be read. -/
inductive FileError where
  | notFound
  | isDirectory
  | notDirectory
  | alreadyExists
  /-- The content is not valid UTF-8. -/
  | undecodable
  /-- Another cause, in words. -/
  | other (message : String)
deriving DecidableEq, Repr

/-- The cause in words. -/
def FileError.message : FileError → String
  | notFound => "No such file or directory (os error 2)"
  | isDirectory => "Is a directory (os error 21)"
  | notDirectory => "Not a directory (os error 20)"
  | alreadyExists => "File exists (os error 17)"
  | undecodable => undecodableText
  | other message => message

/-- What a path leads to. -/
inductive Entry where
  | file (content : Bytes)
  | directory

/-- What every path leads to. -/
structure Files where
  find : String → Except FileError Entry

namespace Files

/-- The path leads somewhere. -/
def has (files : Files) (path : String) : Bool := (files.find path).isOk

/-- The content of the file at a path. -/
def read (files : Files) (path : String) : Except FileError Bytes :=
  match files.find path with
  | .ok (.file content) => .ok content
  | .ok .directory => .error .isDirectory
  | .error e => .error e

/-- The text of the file at a path. -/
def readText (files : Files) (path : String) : Except FileError String :=
  match files.read path with
  | .error e => .error e
  | .ok content =>
    match Bytes.decode? content with
    | some text => .ok text
    | none => .error .undecodable

/-- The view in which only listed paths lead somewhere. -/
def ofList (entries : List (String × Except FileError Entry)) : Files where
  find path := ((entries.find? (·.1 = path)).map Prod.snd).getD (.error .notFound)

end Files

/-! ## Paths -/

namespace Path

/-- The parts of a path between slashes. -/
def split (path : String) : List String :=
  let parts := path.toList.foldr (fun c parts => match parts with
    | [] => [[c]]
    | part :: rest => if c = '/' then [] :: part :: rest else (c :: part) :: rest) [[]]
  parts.map String.ofList

/-- The last component, unless it is the directory itself or the one above. -/
def fileName? (path : String) : Option String :=
  match ((split path).filter fun part => part ≠ "" ∧ part ≠ ".").getLast? with
  | some name => if name = ".." then none else some name
  | none => none

/-- A path below a directory; below no directory it is the path itself. -/
def join (directory path : String) : String :=
  if directory = "" then path else directory ++ "/" ++ path

/-- The path without its last component; empty if there is only one. -/
def parent (path : String) : String :=
  let names := ((split path).filter fun part => part ≠ "" ∧ part ≠ ".").dropLast
  let relative := "/".intercalate names
  if path.toList.head? = some '/' then "/" ++ relative else relative

/-- What follows the last dot of the file name, unless the dot is its first character. -/
def extension? (path : String) : Option String := do
  let name := (← fileName? path).toList
  let after := (name.reverse.takeWhile (· ≠ '.')).reverse
  if after.length = name.length ∨ after.length + 1 = name.length then none
  else some (String.ofList after)

end Path

/-! ## Directory trees -/

/-- A file, or a directory with its entries. -/
inductive FileTree where
  | file (content : Bytes)
  | directory (entries : List (String × FileTree))

namespace FileTree

/-- An empty directory. -/
def empty : FileTree := directory []

/-- Puts a file or an empty directory at a path of names, with the directories on the way. -/
def put (leaf : FileTree) : List String → FileTree → FileTree
  | [], _ => leaf
  | name :: path, tree =>
    let entries := match tree with
      | directory entries => entries
      | file _ => []
    directory (Keyed.set entries name (put leaf path ((Keyed.get? entries name).getD empty)))

/-- Follows parts of a path from a directory, given the directories around it, innermost first.
Above the outermost directory nothing is known. -/
def follow (outer : List FileTree) (tree : FileTree) : List String → Except FileError FileTree
  | [] => .ok tree
  | part :: parts =>
    match tree with
    | file _ => .error .notDirectory
    | directory entries =>
      if part = "" ∨ part = "." then follow outer tree parts
      else if part = ".." then
        match outer with
        | [] => .error .notFound
        | parent :: outer => follow outer parent parts
      else match Keyed.get? entries part with
        | none => .error .notFound
        | some child => follow (tree :: outer) child parts

/-- The view of a directory's content. -/
def files (tree : FileTree) : Files where
  find path :=
    if path.isEmpty ∨ path.toList.head? = some '/' then .error .notFound
    else match follow [] tree (Path.split path) with
      | .ok (file content) => .ok (.file content)
      | .ok (directory _) => .ok .directory
      | .error e => .error e

end FileTree
end DocSchema
