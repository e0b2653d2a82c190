import DocSchema.Failure
import DocSchema.Registry
import DocSchema.Text.Quoted

/-!
# Validators as they are shown for inspection

Validators, kinds and positions are shown as the name of a type and its parts in braces.
-/
namespace DocSchema

/-- Parts with commas between them. -/
def commaSeparated (parts : List String) : String := ", ".intercalate parts

/-- A type with named parts. -/
def inspectParts (type : String) (parts : List (String × String)) : String :=
  type ++ " \x7b " ++ commaSeparated (parts.map fun p => p.1 ++ ": " ++ p.2) ++ " \x7d"

/-- A leaf as it is shown. -/
def Leaf.inspect : Leaf → String
  | string => "String"
  | boolean => "Boolean"
  | int => "Int"
  | pattern p => "Regex(" ++ Quoted.encode p.text ++ ")"
  | custom name _ => "Custom \x7b name: " ++ Quoted.encode name ++ ", .. \x7d"

mutual

/-- A validator as it is shown. -/
def Validator.inspect : Validator → String
  | .leaf l => inspectParts "ElementValidator" [("kind", l.inspect)]
  | .array e => inspectParts "ArrayValidator" [("element", Validator.inspect e)]
  | .object hook fields =>
    inspectParts "ObjectValidator"
      [("kind", Quoted.encode (Hook.token hook)),
        ("fields", "[" ++ commaSeparated (inspectFields fields) ++ "]")]

/-- Fields as they are shown. -/
def inspectFields : List (String × Validator) → List String
  | [] => []
  | (name, v) :: rest =>
    ("(" ++ Quoted.encode name ++ ", " ++ Validator.inspect v ++ ")") :: inspectFields rest

end

/-- A custom kind as it is shown. -/
def CustomKind.inspect : CustomKind → String
  | element _ => "Element"
  | object _ => "Object"

/-- A value at a position as it is shown. -/
def Position.inspect (pos : Position) (node : Json) : String :=
  let index := match pos.index with
    | some i => s!"Some({i})"
    | none => "None"
  inspectParts "ValidationParams"
    [("node", Quoted.encode node.kind.label), ("name", Quoted.encode pos.name), ("index", index)]

end DocSchema
