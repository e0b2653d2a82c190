/-!
# White space as a property of characters

The blanks are those of every script, not only the ASCII ones.
-/
namespace DocSchema

/-- The character is white space. -/
def isBlank (c : Char) : Bool :=
  let n := c.toNat
  (9 ≤ n && n ≤ 13) || n = 0x20 || n = 0x85 || n = 0xA0 || n = 0x1680 ||
    (0x2000 ≤ n && n ≤ 0x200A) ||
    n = 0x2028 || n = 0x2029 || n = 0x202F || n = 0x205F || n = 0x3000

/-- A text without its last blanks. -/
def trimEnd (s : List Char) : List Char := (s.reverse.dropWhile isBlank).reverse

/-- A text without its first blanks. -/
def trimStart (s : List Char) : List Char := s.dropWhile isBlank

/-- A text without blanks at either end. -/
def trim (s : List Char) : List Char := trimEnd (trimStart s)

end DocSchema
