import DocSchema.Number.Binary64

/-!
# Floating-point numbers with the values that are not finite
-/
namespace DocSchema

/-- A floating-point value. -/
inductive Extended where
  | finite (x : Binary64)
  | infinite (negative : Bool)
  | notANumber
deriving DecidableEq, Repr

end DocSchema
