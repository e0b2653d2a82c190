import DocSchema.Text.Property

/-!
# Texts between quotes

Values are shown in this way for inspection: what would not be seen, or not be seen for what it
is, stands there by its code point.
-/
namespace DocSchema.Quoted

/-- The characters that show themselves: all but controls, formats, unassigned ones, blanks other
than the space, and marks that join the character before them. -/
def visible : CharSet :=
  let hidden :=
    (CharSet.categories ["cc", "cf", "co", "zl", "zp", "zs"]).union CharSet.assigned.compl
  let joining := (CharSet.lookup? CharSet.propertyTable "graphemeextend").getD CharSet.empty
  (hidden.union joining).compl.union (CharSet.single ' ')

/-- A character between quotes. -/
def escape (c : Char) : List Char :=
  if c = '"' then ['\\', '"']
  else if c = '\\' then ['\\', '\\']
  else if c = '\n' then ['\\', 'n']
  else if c = '\r' then ['\\', 'r']
  else if c = '\t' then ['\\', 't']
  else if c = '\x00' then ['\\', '0']
  else if visible.has c then [c]
  else ['\\', 'u', '\x7b'] ++ Nat.toDigits 16 c.toNat ++ ['\x7d']

/-- A text between quotes. -/
def encode (text : String) : String :=
  String.ofList ('"' :: (text.toList.flatMap escape ++ ['"']))

end DocSchema.Quoted
