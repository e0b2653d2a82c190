import DocSchema.Notation.Reader
import DocSchema.Proofs.Notation.Line

/-!
# What a type name denotes

`resolve` tries the built-in types, the pattern prefix, the array suffix and the
registry in turn.  `Denotes` lists the same meanings without an order, one rule
for each form of a type name.  The two agree (`resolve_eq_ok_iff`), because no
two rules apply to one type name: a registered name is never reserved, so it is
no built-in name, does not begin like a pattern and does not end like an array.
-/
namespace DocSchema.Notation

/-! ## Beginnings and endings -/

theorem afterPrefix?_eq_some_iff {start text rest : String} :
    afterPrefix? start text = some rest ↔ text = start ++ rest := by
  unfold afterPrefix?
  constructor
  · intro h
    split at h
    · rename_i hprefix
      obtain ⟨tail, htail⟩ := List.isPrefixOf_iff_prefix.mp hprefix
      obtain rfl := Option.some.inj h
      apply String.toList_injective
      rw [String.toList_append, String.toList_ofList, ← htail, List.drop_left]
    · cases h
  · rintro rfl
    rw [String.toList_append, if_pos (List.isPrefixOf_iff_prefix.mpr (List.prefix_append ..)),
      List.drop_left, String.ofList_toList]

theorem beforeSuffix?_eq_some_iff {ending text base : String} :
    beforeSuffix? ending text = some base ↔ text = base ++ ending := by
  unfold beforeSuffix?
  constructor
  · intro h
    split at h
    · rename_i hsuffix
      obtain ⟨front, hfront⟩ := List.isSuffixOf_iff_suffix.mp hsuffix
      obtain rfl := Option.some.inj h
      apply String.toList_injective
      rw [String.toList_append, String.toList_ofList, ← hfront, List.length_append,
        Nat.add_sub_cancel, List.take_left]
    · cases h
  · rintro rfl
    rw [String.toList_append, if_pos (List.isSuffixOf_iff_suffix.mpr (List.suffix_append ..)),
      List.length_append, Nat.add_sub_cancel, List.take_left, String.ofList_toList]

theorem afterPrefix?_eq_none_iff {start text : String} :
    afterPrefix? start text = none ↔ ∀ rest, text ≠ start ++ rest := by
  rw [Option.eq_none_iff_forall_ne_some]
  exact forall_congr' fun _ => not_congr afterPrefix?_eq_some_iff

theorem beforeSuffix?_eq_none_iff {ending text : String} :
    beforeSuffix? ending text = none ↔ ∀ base, text ≠ base ++ ending := by
  rw [Option.eq_none_iff_forall_ne_some]
  exact forall_congr' fun _ => not_congr beforeSuffix?_eq_some_iff

/-! ## Names of custom kinds -/

/-- The names that the registry may hold, by what they are not. -/
structure IsKindName (name : String) : Prop where
  builtin : name ∉ Registry.builtinTokens
  pattern : ∀ text, name ≠ patternPrefix ++ text
  array : ∀ base, name ≠ base ++ arraySuffix
  token : IsToken name

/-- **The registry refuses the other names.** -/
theorem isReserved_eq_false_iff {name : String} :
    Registry.isReserved name = false ↔ IsKindName name := by
  constructor
  · intro h
    simp only [Registry.isReserved, Bool.or_eq_false_iff] at h
    obtain ⟨⟨⟨⟨hbuiltin, hpattern⟩, harray⟩, hempty⟩, hblank⟩ := h
    refine ⟨by simpa using hbuiltin, ?_, ?_, ?_, ?_⟩
    · rintro text rfl
      rw [String.toList_append, ← Bool.not_eq_true, List.isPrefixOf_iff_prefix] at hpattern
      exact hpattern (List.prefix_append ..)
    · rintro base rfl
      rw [String.toList_append, ← Bool.not_eq_true, List.isSuffixOf_iff_suffix] at harray
      exact harray (List.suffix_append ..)
    · simpa [String.isEmpty_iff] using hempty
    · simpa using hblank
  · intro h
    have hpattern : patternPrefix.toList.isPrefixOf name.toList = false := by
      refine Bool.eq_false_iff.mpr fun hprefix => ?_
      obtain ⟨text, htext⟩ := List.isPrefixOf_iff_prefix.mp hprefix
      refine h.pattern (String.ofList text) (String.toList_injective ?_)
      rw [String.toList_append, String.toList_ofList, htext]
    have harray : arraySuffix.toList.isSuffixOf name.toList = false := by
      refine Bool.eq_false_iff.mpr fun hsuffix => ?_
      obtain ⟨base, hbase⟩ := List.isSuffixOf_iff_suffix.mp hsuffix
      refine h.array (String.ofList base) (String.toList_injective ?_)
      rw [String.toList_append, String.toList_ofList, hbase]
    simp only [Registry.isReserved, Bool.or_eq_false_iff]
    refine ⟨⟨⟨⟨by simpa using h.builtin, hpattern⟩, harray⟩, ?_⟩, ?_⟩
    · simpa [String.isEmpty_iff] using h.token.1
    · simpa using h.token.2

theorem isKindName_of_get? {r : Registry} {name : String} {kind : CustomKind}
    (h : r.get? name = some kind) : IsKindName name :=
  isReserved_eq_false_iff.mp (Registry.isReserved_eq_false h)

/-- An array of a custom kind does not begin like a pattern either: the prefix
holds no bracket, so it would have to lie within the name. -/
theorem IsKindName.array_ne_pattern {name : String} (h : IsKindName name) (text : String) :
    name ++ arraySuffix ≠ patternPrefix ++ text := by
  intro heq
  have hlists : name.toList ++ arraySuffix.toList = patternPrefix.toList ++ text.toList := by
    rw [← String.toList_append, ← String.toList_append, heq]
  rcases List.append_eq_append_iff.mp hlists with ⟨rest, hpre, hsuf⟩ | ⟨rest, hpre, -⟩
  · cases rest with
    | nil =>
      refine h.pattern "" (String.toList_injective ?_)
      rw [String.toList_append, hpre]
      simp
    | cons c cs =>
      -- The prefix would reach into the mark of the array.
      have hbracket : c = '[' := by
        have hc : some c = some '[' := by
          have hhead := congrArg List.head? hsuf
          simpa [arraySuffix] using hhead.symm
        exact Option.some.inj hc
      have hmem : '[' ∈ patternPrefix.toList := by
        rw [hpre, ← hbracket]
        simp
      exact absurd hmem (by decide)
  · refine h.pattern (String.ofList rest) (String.toList_injective ?_)
    rw [String.toList_append, String.toList_ofList, hpre]

/-! ## Meanings of type names -/

/-- What a type name declares, given the custom kinds. -/
inductive Denotes (r : Registry) : String → Declared → Prop where
  | string : Denotes r "String" (.leaf (.leaf .string))
  | boolean : Denotes r "Boolean" (.leaf (.leaf .boolean))
  | int : Denotes r "Int" (.leaf (.leaf .int))
  | pattern {text : String} {p : Pattern} : Pattern.compile? text = some p →
      Denotes r (patternPrefix ++ text) (.leaf (.leaf (.pattern p)))
  | object : Denotes r objectToken (.opens {} false)
  | objects : Denotes r (objectToken ++ arraySuffix) (.opens {} true)
  | element {name : String} {check : Check} : r.get? name = some (.element check) →
      Denotes r name (.leaf (.leaf (.custom name check)))
  | elements {name : String} {check : Check} : r.get? name = some (.element check) →
      Denotes r (name ++ arraySuffix) (.leaf (.array (.leaf (.custom name check))))
  | kind {name : String} {check : Check} : r.get? name = some (.object check) →
      Denotes r name (.opens (.withHook name check) false)
  | kinds {name : String} {check : Check} : r.get? name = some (.object check) →
      Denotes r (name ++ arraySuffix) (.opens (.withHook name check) true)

theorem builtin?_eq_some_iff {token : String} {l : Leaf} :
    builtin? token = some l ↔ (token = "String" ∧ l = .string) ∨
      (token = "Boolean" ∧ l = .boolean) ∨ (token = "Int" ∧ l = .int) := by
  unfold builtin?
  grind

theorem builtin?_eq_none_iff {token : String} :
    builtin? token = none ↔ token ≠ "String" ∧ token ≠ "Boolean" ∧ token ≠ "Int" := by
  unfold builtin?
  grind

/-- The last two steps of `resolve`: plain objects and the registry. -/
def resolveBase (r : Registry) (base : String) (isArray : Bool) : Except TokenFault Declared :=
  if base = objectToken then .ok (.opens {} isArray)
  else match r.construct? base with
    | some (.inr o) => .ok (.opens o isArray)
    | some (.inl l) => .ok (.leaf (if isArray then .array (.leaf l) else .leaf l))
    | none => .error .unknown

theorem resolve_eq_resolveBase {r : Registry} {token : String} (hbuiltin : builtin? token = none)
    (hpattern : afterPrefix? patternPrefix token = none) :
    resolve r token = match beforeSuffix? arraySuffix token with
      | some base => resolveBase r base true
      | none => resolveBase r token false := by
  unfold resolve
  rw [hbuiltin, hpattern]
  cases beforeSuffix? arraySuffix token <;> rfl

theorem resolveBase_eq_ok_iff {r : Registry} {base : String} {isArray : Bool} {d : Declared} :
    resolveBase r base isArray = .ok d ↔
      (base = objectToken ∧ d = .opens {} isArray) ∨
      (base ≠ objectToken ∧ ∃ check, r.get? base = some (.object check) ∧
        d = .opens (.withHook base check) isArray) ∨
      (base ≠ objectToken ∧ ∃ check, r.get? base = some (.element check) ∧
        d = .leaf (if isArray then .array (.leaf (.custom base check))
          else .leaf (.custom base check))) := by
  unfold resolveBase Registry.construct?
  by_cases hobject : base = objectToken
  · simp [hobject, eq_comm]
  · rcases hkind : r.get? base with _ | ⟨check⟩ | ⟨check⟩ <;> simp [hobject, eq_comm]

/-- A registered name, as it stands or as an array, reaches the registry. -/
theorem resolve_of_isKindName {r : Registry} {name : String} (h : IsKindName name) :
    resolve r name = resolveBase r name false ∧
      resolve r (name ++ arraySuffix) = resolveBase r name true := by
  have hplain : builtin? name = none := by
    have hname := h.builtin
    simp only [Registry.builtinTokens, List.mem_cons, not_or] at hname
    exact builtin?_eq_none_iff.mpr ⟨hname.1, hname.2.1, hname.2.2.1⟩
  have harray : builtin? (name ++ arraySuffix) = none := by
    have hends : ∀ token, beforeSuffix? arraySuffix token = none → name ++ arraySuffix ≠ token :=
      fun _ hnone heq => beforeSuffix?_eq_none_iff.mp hnone name heq.symm
    exact builtin?_eq_none_iff.mpr
      ⟨hends _ (by decide), hends _ (by decide), hends _ (by decide)⟩
  have hsuffix : beforeSuffix? arraySuffix name = none := beforeSuffix?_eq_none_iff.mpr h.array
  constructor
  · rw [resolve_eq_resolveBase hplain (afterPrefix?_eq_none_iff.mpr h.pattern), hsuffix]
  · rw [resolve_eq_resolveBase harray (afterPrefix?_eq_none_iff.mpr h.array_ne_pattern),
      beforeSuffix?_eq_some_iff.mpr rfl]

/-- A pattern is resolved by compiling it. -/
theorem resolve_pattern (r : Registry) (text : String) :
    resolve r (patternPrefix ++ text) = match Pattern.compile? text with
      | some p => .ok (.leaf (.leaf (.pattern p)))
      | none => .error (.invalidPattern text) := by
  have hends : ∀ token, afterPrefix? patternPrefix token = none → patternPrefix ++ text ≠ token :=
    fun _ hnone heq => afterPrefix?_eq_none_iff.mp hnone text heq.symm
  have hbuiltin : builtin? (patternPrefix ++ text) = none :=
    builtin?_eq_none_iff.mpr ⟨hends _ (by decide), hends _ (by decide), hends _ (by decide)⟩
  have hpattern : afterPrefix? patternPrefix (patternPrefix ++ text) = some text :=
    afterPrefix?_eq_some_iff.mpr rfl
  cases hcompile : Pattern.compile? text <;> simp only [resolve, hbuiltin, hpattern, hcompile]

theorem denotes_of_resolve {r : Registry} {token : String} {d : Declared}
    (h : resolve r token = .ok d) : Denotes r token d := by
  cases hbuiltin : builtin? token with
  | some l =>
    rw [resolve, hbuiltin] at h
    obtain rfl := Except.ok.inj h
    obtain ⟨rfl, rfl⟩ | ⟨rfl, rfl⟩ | ⟨rfl, rfl⟩ := builtin?_eq_some_iff.mp hbuiltin
    · exact .string
    · exact .boolean
    · exact .int
  | none =>
    cases hpattern : afterPrefix? patternPrefix token with
    | some text =>
      obtain rfl := afterPrefix?_eq_some_iff.mp hpattern
      rw [resolve_pattern] at h
      cases hp : Pattern.compile? text with
      | none => rw [hp] at h; cases h
      | some p =>
        rw [hp] at h
        obtain rfl := Except.ok.inj h
        exact .pattern hp
    | none =>
      rw [resolve_eq_resolveBase hbuiltin hpattern] at h
      cases hsuffix : beforeSuffix? arraySuffix token with
      | some base =>
        obtain rfl := beforeSuffix?_eq_some_iff.mp hsuffix
        rw [hsuffix] at h
        obtain ⟨rfl, rfl⟩ | ⟨-, check, hget, rfl⟩ | ⟨-, check, hget, rfl⟩ :=
          resolveBase_eq_ok_iff.mp h
        · exact .objects
        · exact .kinds hget
        · exact .elements hget
      | none =>
        rw [hsuffix] at h
        obtain ⟨rfl, rfl⟩ | ⟨-, check, hget, rfl⟩ | ⟨-, check, hget, rfl⟩ :=
          resolveBase_eq_ok_iff.mp h
        · exact .object
        · exact .kind hget
        · exact .element hget

theorem resolve_of_denotes {r : Registry} {token : String} {d : Declared}
    (h : Denotes r token d) : resolve r token = .ok d := by
  have hne : ∀ {name kind}, r.get? name = some kind → name ≠ objectToken := by
    rintro name kind hget rfl
    exact (isKindName_of_get? hget).builtin (by decide)
  cases h with
  | string | boolean | int => rfl
  | pattern hp => rw [resolve_pattern, hp]
  | object | objects => rfl
  | element hget =>
    rw [(resolve_of_isKindName (isKindName_of_get? hget)).1, resolveBase_eq_ok_iff]
    exact .inr (.inr ⟨hne hget, _, hget, rfl⟩)
  | elements hget =>
    rw [(resolve_of_isKindName (isKindName_of_get? hget)).2, resolveBase_eq_ok_iff]
    exact .inr (.inr ⟨hne hget, _, hget, rfl⟩)
  | kind hget =>
    rw [(resolve_of_isKindName (isKindName_of_get? hget)).1, resolveBase_eq_ok_iff]
    exact .inr (.inl ⟨hne hget, _, hget, rfl⟩)
  | kinds hget =>
    rw [(resolve_of_isKindName (isKindName_of_get? hget)).2, resolveBase_eq_ok_iff]
    exact .inr (.inl ⟨hne hget, _, hget, rfl⟩)

/-- **Resolving finds what a type name denotes.** -/
theorem resolve_eq_ok_iff {r : Registry} {token : String} {d : Declared} :
    resolve r token = .ok d ↔ Denotes r token d :=
  ⟨denotes_of_resolve, resolve_of_denotes⟩

/-- A type name denotes one thing. -/
theorem Denotes.unique {r : Registry} {token : String} {d d' : Declared} (h : Denotes r token d)
    (h' : Denotes r token d') : d = d' := by
  have heq := (resolve_eq_ok_iff.mpr h).symm.trans (resolve_eq_ok_iff.mpr h')
  exact Except.ok.inj heq

/-- What is no pattern fails by being unknown. -/
theorem eq_unknown_of_resolve_eq_error {r : Registry} {token : String} {fault : TokenFault}
    (hpattern : ∀ text, token ≠ patternPrefix ++ text) (h : resolve r token = .error fault) :
    fault = .unknown := by
  have hbase : ∀ base isArray, resolveBase r base isArray = .error fault → fault = .unknown := by
    intro base isArray hfault
    unfold resolveBase at hfault
    split at hfault
    · cases hfault
    · split at hfault <;> simp_all
  have hprefix : afterPrefix? patternPrefix token = none := afterPrefix?_eq_none_iff.mpr hpattern
  cases hbuiltin : builtin? token with
  | some l =>
    unfold resolve at h
    rw [hbuiltin] at h
    cases h
  | none =>
    rw [resolve_eq_resolveBase hbuiltin hprefix] at h
    cases hsuffix : beforeSuffix? arraySuffix token with
    | some base => exact hbase base true (by rwa [hsuffix] at h)
    | none => exact hbase token false (by rwa [hsuffix] at h)

/-- **How resolving fails.**  A type name that begins like a pattern fails if the
pattern does not compile, any other if it denotes nothing. -/
theorem resolve_eq_error_iff {r : Registry} {token : String} {fault : TokenFault} :
    resolve r token = .error fault ↔
      (∃ text, token = patternPrefix ++ text ∧ Pattern.compile? text = none ∧
        fault = .invalidPattern text) ∨
      ((∀ text, token ≠ patternPrefix ++ text) ∧ (∀ d, ¬ Denotes r token d) ∧
        fault = .unknown) := by
  constructor
  · intro h
    by_cases hpattern : ∃ text, token = patternPrefix ++ text
    · obtain ⟨text, rfl⟩ := hpattern
      rw [resolve_pattern] at h
      cases hp : Pattern.compile? text with
      | some p => rw [hp] at h; cases h
      | none =>
        rw [hp] at h
        exact .inl ⟨text, rfl, hp, (Except.error.inj h).symm⟩
    · have hne : ∀ text, token ≠ patternPrefix ++ text := fun text htext => hpattern ⟨text, htext⟩
      refine .inr ⟨hne, fun d hd => ?_, eq_unknown_of_resolve_eq_error hne h⟩
      rw [resolve_eq_ok_iff.mpr hd] at h
      cases h
  · rintro (⟨text, rfl, hp, rfl⟩ | ⟨hne, hnone, rfl⟩)
    · rw [resolve_pattern, hp]
    · cases h : resolve r token with
      | ok d => exact absurd (resolve_eq_ok_iff.mp h) (hnone d)
      | error fault => rw [eq_unknown_of_resolve_eq_error hne h]

end DocSchema.Notation
