import DocSchema.Text.Utf8
import DocSchema.Yaml.Scalar

/-!
# Reading anchors, tags and directives
-/
namespace DocSchema.Yaml

/-- The name after the mark of an anchor or an alias. What follows has to be able to end it. -/
def anchorName? (c : Cursor) : Option (String × Cursor) :=
  let name := c.rest.takeWhile isNameChar
  let c := c.advance name.length
  let ends (d : Char) : Bool := isGap d || ['?', ':', ',', ']', '\x7d', '%', '@', '`'].contains d
  if name.isEmpty || !endsWith ends c.rest then none else some (String.ofList name, c)

/-- The character of percent escapes at the front of a text and their length: the bytes of one
character in UTF-8. -/
def percentChar? (s : List Char) : Option (Char × Nat) := do
  let byte? (s : List Char) : Option Nat :=
    match s with
    | '%' :: a :: b :: _ => do return 16 * (← hexValue? a) + (← hexValue? b)
    | _ => none
  let first ← byte? s
  let count := if first < 0x80 then 1 else if first < 0xC0 then 0
    else if first < 0xE0 then 2 else if first < 0xF0 then 3 else if first < 0xF8 then 4 else 0
  if count = 0 then none
  else
    let bytes ← (List.range count).mapM fun i => byte? (s.drop (3 * i))
    let text ← Bytes.decode? (bytes.map UInt8.ofNat)
    match text.toList with
    | [d] => some (d, 3 * count)
    | _ => none

/-- A character of a tag; some occur in a tag between angle brackets only. -/
def isTagChar (verbatim : Bool) (c : Char) : Bool :=
  isNameChar c || ";/?:@&=+$.%!~*'()".toList.contains c ||
    (verbatim && (c = ',' || c = '[' || c = ']'))

/-- The characters of a tag, with percent escapes resolved. -/
def tagText (verbatim : Bool) : Nat → Cursor → Option (List Char × Cursor)
  | 0, c => some ([], c)
  | fuel + 1, c =>
    match c.rest with
    | [] => some ([], c)
    | d :: _ =>
      if !isTagChar verbatim d then some ([], c)
      else do
        let (e, count) ← if d = '%' then percentChar? c.rest else some (d, 1)
        let (more, c) ← tagText verbatim fuel (c.advance count)
        some (e :: more, c)

/-- The handle of a tag: an exclamation mark, name characters, and a second mark if there is one. -/
def tagHandle (c : Cursor) : List Char × Cursor :=
  let name := (c.rest.drop 1).takeWhile isNameChar
  let second := if (c.rest.drop (1 + name.length)).head? = some '!' then ['!'] else []
  ('!' :: (name ++ second), c.advance (1 + name.length + second.length))

/-- A tag, from its exclamation mark on: in angle brackets, with a handle, or local. -/
def tag? (inFlow : Bool) (c : Cursor) : Option (Token × Cursor) := do
  let fuel := c.rest.length
  let (token, c) ←
    if c.rest.tail.head? = some '<' then do
      let (text, c) ← tagText true fuel (c.advance 2)
      if text.isEmpty || c.rest.head? ≠ some '>' then none
      else some (Token.tag "" (String.ofList text), c.advance 1)
    else
      let (handle, after) := tagHandle c
      if 2 ≤ handle.length && handle.getLast? = some '!' then do
        let (text, c) ← tagText false fuel after
        if text.isEmpty then none
        else some (Token.tag (String.ofList handle) (String.ofList text), c)
      else do
        let (text, c) ← tagText false fuel after
        let text := handle.tail ++ text
        some (if text.isEmpty then Token.tag "" "!" else Token.tag "!" (String.ofList text), c)
  if endsWith isGap c.rest || (inFlow && c.rest.head? = some ',') then some (token, c) else none

/-- A number of at most nine digits. -/
def versionNumber? (c : Cursor) : Option (Nat × Cursor) :=
  let digits := c.rest.takeWhile Char.isDigit
  if digits.isEmpty || 9 < digits.length then none
  else some (digits.foldl (fun n d => 10 * n + (d.toNat - '0'.toNat)) 0, c.advance digits.length)

/-- A directive, from its percent sign on. -/
def directive? (c : Cursor) : Option (Token × Cursor) := do
  let c := c.advance 1
  let name := c.rest.takeWhile isNameChar
  let c := c.advance name.length
  if name.isEmpty || !endsWith isGap c.rest then none
  let c := c.skipWhile isSpace
  let (token, c) ←
    if name = ['Y', 'A', 'M', 'L'] then do
      let (major, c) ← versionNumber? c
      if c.rest.head? ≠ some '.' then none
      let (minor, c) ← versionNumber? (c.advance 1)
      some (Token.version major minor, c)
    else if name = ['T', 'A', 'G'] then do
      if c.rest.head? ≠ some '!' then none
      let (handle, c) := tagHandle c
      if handle ≠ ['!'] && handle.getLast? ≠ some '!' then none
      if !(c.rest.head?.any isSpace) then none
      let (text, c) ← tagText true c.rest.length (c.skipWhile isSpace)
      if text.isEmpty || !endsWith isGap c.rest then none
      some (Token.tagDirective (String.ofList handle) (String.ofList text), c)
    else none
  let c ← c.endOfLine?
  some (token, c)

end DocSchema.Yaml
