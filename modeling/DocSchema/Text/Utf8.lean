/-!
# Bytes and texts

A file is a list of bytes; it holds a text if the bytes are valid UTF-8.
-/
namespace DocSchema

/-- The content of a file. -/
abbrev Bytes := List UInt8

namespace Bytes

/-- The text that the bytes encode, if they are valid UTF-8. -/
def decode? (bytes : Bytes) : Option String := String.fromUTF8? ⟨bytes.toArray⟩

/-- The bytes of a text. -/
def ofText (text : String) : Bytes := text.toUTF8.data.toList

/-- The bytes of a text are read as that text. -/
@[simp] theorem decode?_ofText (text : String) : decode? (ofText text) = some text := by
  simp only [decode?, ofText, Array.toArray_toList, String.fromUTF8?]
  exact dif_pos text.isValidUTF8

end Bytes
end DocSchema
