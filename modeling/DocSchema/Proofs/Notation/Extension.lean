import DocSchema.Proofs.Notation.Token

/-!
# Reading with more kinds

A registry may be extended (`Registry.Le`).  What is read with the smaller one is
read in the same way with the larger one, tree or error, unless the smaller one
lacks a type name.

It comes down to single type names.  A registered name is not reserved, so it
stands in the way of no built-in type and no pattern; and what a name denotes with
the smaller registry it denotes with the larger one.  So a line is either of
unknown type, or it does the same to the open objects with both registries, and
the two runs go on side by side.
-/
namespace DocSchema

/-- A registry has the kinds of another one, each with the same check. -/
def Registry.Le (r r' : Registry) : Prop :=
  ∀ name kind, r.get? name = some kind → r'.get? name = some kind

namespace Registry

/-- Registering a new name keeps the kinds that there are. -/
theorem le_register {r : Registry} {name : String} (hnew : r.get? name = none) (kind : CustomKind) :
    r.Le (r.register name kind).2 := by
  intro other kind' h
  rw [get?_register, if_neg]
  · exact h
  · rintro ⟨rfl, -⟩
    rw [hnew] at h
    cases h

end Registry

namespace Notation
variable {r r' : Registry}

/-- Type names keep their meanings. -/
theorem Denotes.mono (h : r.Le r') {token : String} {d : Declared} (hd : Denotes r token d) :
    Denotes r' token d := by
  cases hd with
  | string => exact .string
  | boolean => exact .boolean
  | int => exact .int
  | pattern hp => exact .pattern hp
  | object => exact .object
  | objects => exact .objects
  | element hget => exact .element (h _ _ hget)
  | elements hget => exact .elements (h _ _ hget)
  | kind hget => exact .kind (h _ _ hget)
  | kinds hget => exact .kinds (h _ _ hget)

/-- A type name is unknown to the smaller registry or means the same to both. -/
theorem resolve_eq_of_le (h : r.Le r') (token : String) :
    resolve r token = .error .unknown ∨ resolve r' token = resolve r token := by
  cases hresolve : resolve r token with
  | ok d => exact .inr (resolve_of_denotes ((denotes_of_resolve hresolve).mono h))
  | error fault =>
    obtain ⟨text, rfl, hp, rfl⟩ | ⟨-, -, rfl⟩ := resolve_eq_error_iff.mp hresolve
    · -- Whether a pattern compiles is not up to the registry.
      exact .inr (resolve_eq_error_iff.mpr (.inl ⟨text, rfl, hp, rfl⟩))
    · exact .inl rfl

/-- The result of reading blames an unknown type name. -/
def IsUnknownType {α : Type} (result : Except SchemaError α) : Prop :=
  ∃ line token, result = .error (.unknownType line token)

theorem readLine_eq_of_le (h : r.Le r') (number : Nat) (b : Building) (text : List Char) :
    IsUnknownType (readLine r number b text) ∨
      readLine r' number b text = readLine r number b text := by
  unfold readLine
  cases Line.read? text with
  | none => exact .inr rfl
  | some l =>
    simp only
    by_cases hdepth : (b.closeTo l.depth).frames.length < l.depth
    · rw [if_pos hdepth, if_pos hdepth]
      exact .inr rfl
    · rw [if_neg hdepth, if_neg hdepth]
      rcases resolve_eq_of_le h l.token with hunknown | hsame
      · rw [hunknown]
        exact .inl ⟨number, l.token, rfl⟩
      · rw [hsame]
        exact .inr rfl

/-- Two runs over the same lines go on side by side until a type name is unknown. -/
theorem readLines_eq_of_le (h : r.Le r') (number : Nat) (b : Building)
    (raw : List (Option (List Char))) :
    IsUnknownType (readLines r number b raw) ∨
      readLines r' number b raw = readLines r number b raw := by
  induction raw generalizing number b with
  | nil => exact .inr rfl
  | cons line rest ih =>
    cases line with
    | none => exact .inr rfl
    | some text =>
      rw [readLines, readLines]
      rcases readLine_eq_of_le h number b text with ⟨line, token, hunknown⟩ | hsame
      · rw [hunknown]
        exact .inl ⟨line, token, rfl⟩
      · rw [hsame]
        cases readLine r number b text with
        | error e => exact .inr rfl
        | ok b' => exact ih (number + 1) b'

theorem readAll_eq_of_le (h : r.Le r') {raw : List (Option (List Char))}
    (hknown : ¬ IsUnknownType (readAll r raw)) : readAll r' raw = readAll r raw := by
  unfold readAll at hknown ⊢
  rcases readLines_eq_of_le h 1 {} raw with ⟨line, token, hunknown⟩ | hsame
  · rw [hunknown] at hknown
    exact absurd ⟨line, token, rfl⟩ hknown
  · rw [hsame]

/-- The type names that no registration can give a meaning to. -/
def IsBuiltIn (token : String) : Prop :=
  token ∈ ["String", "Boolean", "Int", "Object", "Object[]"] ∨ ∃ text, token = "Regex:" ++ text

/-- The meaning of a built-in type name does not depend on the registry. -/
theorem resolve_eq_of_isBuiltIn (r r' : Registry) {token : String} (h : IsBuiltIn token) :
    resolve r' token = resolve r token := by
  rcases h with hname | ⟨text, rfl⟩
  · simp only [List.mem_cons, List.not_mem_nil, or_false] at hname
    obtain rfl | rfl | rfl | rfl | rfl := hname <;> rfl
  · exact (resolve_pattern r' text).trans (resolve_pattern r text).symm

/-- **Registering kinds is conservative.**  If a registry has the kinds of another
one, then what is read with the other one, from bytes or from a text, is read with
it too: the same tree, or the same error, unless this is an unknown type name.  No
kinds at all give a built-in type name another meaning. -/
theorem reading_is_conservative (h : r.Le r') :
    (∀ bytes, (∀ line token, readBytes r bytes ≠ .error (.unknownType line token)) →
        readBytes r' bytes = readBytes r bytes) ∧
      (∀ text, (∀ line token, read r text ≠ .error (.unknownType line token)) →
        read r' text = read r text) ∧
      ∀ token, IsBuiltIn token →
        ∀ any : Registry, resolve any token = resolve Registry.empty token := by
  have hknown : ∀ {raw}, (∀ line token, readAll r raw ≠ .error (.unknownType line token)) →
      readAll r' raw = readAll r raw :=
    fun hne => readAll_eq_of_le h fun ⟨line, token, hunknown⟩ => hne line token hunknown
  exact ⟨fun _ => hknown, fun _ => hknown, fun _ htoken any => resolve_eq_of_isBuiltIn _ any htoken⟩

/-- A kind is registered between two readings of a schema and of a text with a line
that is too deep. -/
theorem reading_after_registration :
    let check : Check := Check.ofPredicate (·.is .object)
    let r := (Registry.empty.register "Item" (.object check)).2
    let r' := (r.register "Code" (.element check)).2
    let item : Validator := .object (some ⟨"Item", check⟩) [("size", .leaf .int)]
    r.Le r' ∧ read r' "first:Item\n\tsize:Int\n" = .ok { fields := [("first", item)] } ∧
      read r' "first:Item\n\t\tsize:Int\nsecond:Code\n" = .error (.indentation 2) := by
  intro check r r' item
  have hle : r.Le r' := Registry.le_register rfl _
  have hitem : read r "first:Item\n\tsize:Int\n" = .ok { fields := [("first", item)] } := rfl
  have hdeep : read r "first:Item\n\t\tsize:Int\nsecond:Code\n" = .error (.indentation 2) := rfl
  obtain ⟨-, hread, -⟩ := reading_is_conservative hle
  refine ⟨hle, ?_, ?_⟩
  · rw [hread _ (by simp [hitem]), hitem]
  · rw [hread _ (by simp [hdeep]), hdeep]

end Notation
end DocSchema
