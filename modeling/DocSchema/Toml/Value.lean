import DocSchema.Keyed
import DocSchema.Number.Extended
import DocSchema.Toml.Moment

/-!
# The values of a TOML document
-/
namespace DocSchema.Toml

/-- A value. The entries of a table have different names. -/
inductive Value where
  | text (s : String)
  | integer (n : Int)
  | real (x : Extended)
  | flag (b : Bool)
  | moment (m : Moment)
  | array (items : List Value)
  | table (entries : List (String × Value))
deriving Repr, Inhabited

end DocSchema.Toml
