import DocSchema.Text.CharSet
import DocSchema.Text.Property.Binary
import DocSchema.Text.Property.CaseFolding
import DocSchema.Text.Property.GeneralCategory
import DocSchema.Text.Property.Script
import DocSchema.Text.Property.Word

/-!
# Sets of characters by the name of a property

Also the closure of a set under case.
-/
namespace DocSchema.CharSet

/-- A property name without what does not distinguish names: case, separators and a leading `is`. -/
def looseName (name : String) : String :=
  let letters :=
    (name.toList.filter fun c => c ≠ ' ' ∧ c ≠ '_' ∧ c ≠ '-' ∧ c.toNat < 128).map Char.toLower
  match name.toList.map Char.toLower, letters with
  | 'i' :: 's' :: _, 'i' :: 's' :: ['c'] => "isc"
  | 'i' :: 's' :: _, 'i' :: 's' :: rest => String.ofList rest
  | _, _ => String.ofList letters

/-- The set of a name in a table. -/
def lookup? (table : List (List String × List String)) (name : String) : Option CharSet :=
  (table.find? fun entry => entry.1.contains name).map fun entry => ofTable entry.2

/-- The union of several categories. -/
def categories (names : List String) : CharSet :=
  unions (names.filterMap (lookup? categoryTable))

/-- The characters that have a category. -/
def assigned : CharSet := unions (categoryTable.map fun entry => ofTable entry.2)

/-- A general category or a group of categories. -/
def category? (name : String) : Option CharSet :=
  if name ∈ ["c", "other"] then
    some ((categories ["cc", "cf", "co"]).union assigned.compl)
  else if name ∈ ["cn", "unassigned"] then some assigned.compl
  else if name ∈ ["cs", "surrogate"] then some empty
  else if name ∈ ["l", "letter"] then some (categories ["lu", "ll", "lt", "lm", "lo"])
  else if name ∈ ["lc", "casedletter"] then some (categories ["lu", "ll", "lt"])
  else if name ∈ ["m", "mark", "combiningmark"] then some (categories ["mn", "mc", "me"])
  else if name ∈ ["n", "number"] then some (categories ["nd", "nl", "no"])
  else if name ∈ ["p", "punctuation"] then
    some (categories ["pc", "pd", "ps", "pe", "pi", "pf", "po"])
  else if name ∈ ["s", "symbol"] then some (categories ["sm", "sc", "sk", "so"])
  else if name ∈ ["z", "separator"] then some (categories ["zs", "zl", "zp"])
  else if name = "any" then some full
  else if name = "assigned" then some assigned
  else if name = "ascii" then some (range 0 127)
  else lookup? categoryTable name

/-- A script. -/
def script? (name : String) : Option CharSet := lookup? scriptTable name

/-- The set that one name stands for. Three short names stand for categories although they are also
short for properties. -/
def named? (name : String) : Option CharSet :=
  let name := looseName name
  let property := if name ∈ ["cf", "sc", "lc"] then none else lookup? propertyTable name
  property <|> category? name <|> script? name

/-- The set of the characters for which a property has a value. -/
def valued? (property value : String) : Option CharSet :=
  let value := looseName value
  if looseName property ∈ ["gc", "generalcategory"] then category? value
  else if looseName property ∈ ["sc", "script", "scx", "scriptextensions"] then script? value
  else none

/-- Decimal digits. -/
def digits : CharSet := ((lookup? categoryTable "nd").getD empty)

/-- White space. -/
def blanks : CharSet := ((lookup? propertyTable "whitespace").getD empty)

/-- Characters of words. -/
def wordChars : CharSet := ofTable wordTable

/-- Letters. -/
def letters : CharSet := ((lookup? propertyTable "alphabetic").getD empty)

/-- The ASCII characters of words. -/
def asciiWordChars : CharSet :=
  unions [range 0x30 0x39, range 0x41 0x5A, single '_', range 0x61 0x7A]

/-! ## Case -/

/-- The classes of characters that differ in case only. -/
def caseClasses : List (List Nat) :=
  let step (state : List (List Nat) × List Nat × Nat) (c : Char) :
      List (List Nat) × List Nat × Nat :=
    let (done, current, sum) := state
    if c = ' ' then ((sum :: current) :: done, [], 0)
    else if c = '.' then (done, sum :: current, 0)
    else (done, current, 36 * sum + digit36 c)
  let (done, current, sum) := (caseTable.flatMap String.toList).foldl step ([], [], 0)
  (sum :: current) :: done

/-- The set with every character that differs from a member in case only. -/
def foldCase (s : CharSet) : CharSet :=
  let missing := caseClasses.flatMap fun points =>
    if points.any s.contains then points.filter (!s.contains ·) else []
  s.union (unions (missing.map fun n => range n n))

/-- The set with every ASCII letter that differs from a member in case only. -/
def foldAsciiCase (s : CharSet) : CharSet :=
  let letters := (List.range 26).flatMap fun i =>
    if s.contains (65 + i) || s.contains (97 + i) then [65 + i, 97 + i] else []
  s.union (unions (letters.map fun n => range n n))

end DocSchema.CharSet
