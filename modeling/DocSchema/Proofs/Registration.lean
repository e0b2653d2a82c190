import DocSchema.Proofs.Notation.Layout

/-!
# Registered kinds and what schemas make of them

A registry is filled by calls, each of which is answered: it registers a kind, it is
refused because the name is reserved, or its pattern does not compile.  The answer is
settled by the call alone (`Registration.answer`), so a run of calls registers, under
each name, what the last accepted call for it gave (`get?_run`).

The names that a registry refuses and the type names that a line can have are kept apart
by different tests.  They fit: a name that is accepted is a type name, alone and as an
array, and it denotes nothing else.  So every registered name can be used in a schema,
and no other name can, the built-in ones apart (`registered_names_are_usable`).
-/
namespace DocSchema

/-- **A call that registers a kind.** -/
inductive Registration where
  | kind (name : String) (k : CustomKind)
  | element (name : String) (check : Check)
  | object (name : String) (check : Check)
  | pattern (name text : String)

namespace Registration

/-- The name that a call is for. -/
def name : Registration → String
  | kind name _ | element name _ | object name _ | pattern name _ => name

/-- The kind that a call gives; none if its pattern does not compile. -/
def kind? : Registration → Option CustomKind
  | kind _ k => some k
  | element _ check => some (.element check)
  | object _ check => some (.object check)
  | pattern _ text => (Pattern.compile? text).map fun p => .element (Check.matching p)

/-- Makes a call: whether the kind was registered, and the registry afterwards.  There is no
answer if the pattern does not compile. -/
def perform (r : Registry) : Registration → Option Bool × Registry
  | kind name k => ((r.register name k).1, (r.register name k).2)
  | element name check => ((r.registerElement name check).1, (r.registerElement name check).2)
  | object name check => ((r.registerObject name check).1, (r.registerObject name check).2)
  | pattern name text =>
    match r.registerPattern? name text with
    | some (answer, r') => (answer, r')
    | none => (none, r)

/-- Makes calls in order: their answers, and the registry afterwards. -/
def run (r : Registry) : List Registration → List (Option Bool) × Registry
  | [] => ([], r)
  | call :: calls =>
    ((call.perform r).1 :: (run (call.perform r).2 calls).1, (run (call.perform r).2 calls).2)

/-- The answers to calls on a new registry. -/
def answers (calls : List Registration) : List (Option Bool) := (run Registry.empty calls).1

/-- What calls register in a new registry. -/
def registered (calls : List Registration) : Registry := (run Registry.empty calls).2

/-! ## Single calls -/

/-- The answer to a call, whatever is registered. -/
def answer (call : Registration) : Option Bool :=
  call.kind?.map fun _ => !Registry.isReserved call.name

/-- Every call registers its kind, if it gives one. -/
theorem perform_eq (r : Registry) (call : Registration) :
    call.perform r = match call.kind? with
      | some k => (some (r.register call.name k).1, (r.register call.name k).2)
      | none => (none, r) := by
  cases call with
  | kind | element | object => rfl
  | pattern name text =>
    rw [perform, kind?, Registry.registerPattern?]
    cases Pattern.compile? text <;> rfl

theorem register_fst (r : Registry) (name : String) (k : CustomKind) :
    (r.register name k).1 = !Registry.isReserved name := by
  unfold Registry.register
  split <;> simp [*]

theorem fst_perform (r : Registry) (call : Registration) : (call.perform r).1 = call.answer := by
  rw [perform_eq, answer]
  cases call.kind? with
  | none => rfl
  | some k => rw [Option.map_some, ← register_fst r call.name k]

/-- **A call that is not accepted changes nothing.** -/
theorem snd_perform_of_refused {r : Registry} {call : Registration}
    (h : (call.perform r).1 ≠ some true) : (call.perform r).2 = r := by
  rw [perform_eq] at h ⊢
  cases hkind : call.kind? with
  | none => rfl
  | some k =>
    simp only [hkind, register_fst] at h ⊢
    have hreserved : Registry.isReserved call.name = true := by simpa using h
    simp [Registry.register, hreserved]

/-- The call registers its kind under a name. -/
def accepts (name : String) (call : Registration) : Bool :=
  call.name = name && call.answer = some true

/-- **What a call leaves**: its kind under its name if it is accepted, and the other kinds as they
were. -/
theorem get?_perform (r : Registry) (call : Registration) (name : String) :
    (call.perform r).2.get? name = if call.accepts name then call.kind? else r.get? name := by
  rw [perform_eq, accepts, answer]
  cases call.kind? with
  | none => simp
  | some k =>
    rw [Registry.get?_register]
    simp

theorem exists_kind_of_accepts {name : String} {call : Registration}
    (h : call.accepts name = true) : ∃ k, call.kind? = some k := by
  rw [accepts, answer] at h
  cases hkind : call.kind? with
  | none => simp [hkind] at h
  | some k => exact ⟨k, rfl⟩

/-! ## Runs of calls -/

theorem fst_run (r : Registry) (calls : List Registration) :
    (run r calls).1 = calls.map answer := by
  induction calls generalizing r with
  | nil => rfl
  | cons call calls ih => rw [run, List.map_cons, fst_perform, ih]

/-- **A run registers what the last accepted call for a name gave.** -/
theorem get?_run (r : Registry) (calls : List Registration) (name : String) :
    (run r calls).2.get? name =
      ((calls.reverse.find? (accepts name)).bind kind?).or (r.get? name) := by
  induction calls generalizing r with
  | nil => rfl
  | cons call calls ih =>
    rw [run, ih, get?_perform, List.reverse_cons, List.find?_append]
    cases hlater : calls.reverse.find? (accepts name) with
    | some later =>
      -- A later call for the name counts, whatever this one does.
      obtain ⟨k, hk⟩ := exists_kind_of_accepts (List.find?_some hlater)
      rw [Option.some_or, Option.bind_some, hk, Option.some_or, Option.some_or]
    | none =>
      by_cases haccepts : call.accepts name = true
      · obtain ⟨k, hk⟩ := exists_kind_of_accepts haccepts
        rw [if_pos haccepts, List.find?_cons_of_pos haccepts, Option.none_or, Option.bind_some, hk]
        rfl
      · rw [if_neg haccepts, List.find?_cons_of_neg haccepts]
        rfl

/-- **The last call that was accepted for a name**, at its index. -/
structure IsLastAccepted (calls : List Registration) (name : String) (n : Nat)
    (call : Registration) : Prop where
  call_eq : calls[n]? = some call
  name_eq : call.name = name
  accepted : (answers calls)[n]? = some (some true)
  last : ∀ m later, n < m → calls[m]? = some later → later.name = name →
    (answers calls)[m]? ≠ some (some true)

theorem getElem?_answers {calls : List Registration} {n : Nat} {call : Registration}
    (h : calls[n]? = some call) : (answers calls)[n]? = some call.answer := by
  rw [answers, fst_run, List.getElem?_map, h]
  rfl

/-- Of the calls for a name that are accepted there is a last one. -/
theorem exists_isLastAccepted {calls : List Registration} {name : String} {call : Registration}
    (h : calls.reverse.find? (accepts name) = some call) :
    ∃ n, IsLastAccepted calls name n call := by
  obtain ⟨haccepts, later, before, hsplit, hlater⟩ := List.find?_eq_some_iff_append.mp h
  have hcalls : calls = before.reverse ++ call :: later.reverse := by
    rw [← List.reverse_reverse calls, hsplit]
    simp
  obtain ⟨hname, hanswer⟩ : call.name = name ∧ call.answer = some true := by
    simpa [accepts] using haccepts
  have hcall : calls[before.length]? = some call := by
    rw [hcalls, List.getElem?_append_right (by simp)]
    simp
  refine ⟨before.length, hcall, hname, ?_, fun m other hlt hother hsame htrue => ?_⟩
  · rw [getElem?_answers hcall, hanswer]
  · rw [getElem?_answers hother] at htrue
    have hmem : other ∈ later := by
      obtain ⟨k, rfl⟩ := Nat.exists_eq_add_of_lt hlt
      rw [hcalls, List.getElem?_append_right (by simp; omega), List.length_reverse, Nat.add_assoc,
        Nat.add_sub_cancel_left, List.getElem?_cons_succ] at hother
      exact List.mem_reverse.mp (List.mem_of_getElem? hother)
    have hrefused := hlater other hmem
    simp [accepts, hsame, Option.some.inj htrue] at hrefused

/-- **How a call is answered**: not at all exactly if its pattern does not compile, else with
whether its name is one that a kind can have. -/
theorem answers_iff {calls : List Registration} {n : Nat} {call : Registration}
    (h : calls[n]? = some call) :
    ((answers calls)[n]? = some none ↔ call.kind? = none) ∧
      ((answers calls)[n]? = some (some true) ↔
        call.kind? ≠ none ∧ Notation.IsKindName call.name) := by
  rw [getElem?_answers h, answer, ← Notation.isReserved_eq_false_iff]
  cases call.kind? <;> simp

/-- What is registered under a name. -/
theorem exists_last_of_contains {calls : List Registration} {name : String}
    (h : (registered calls).contains name = true) :
    ∃ (n : Nat) (call : Registration) (k : CustomKind), IsLastAccepted calls name n call ∧
      call.kind? = some k ∧ (registered calls).get? name = some k := by
  have hget := get?_run Registry.empty calls name
  rw [← registered] at hget
  obtain ⟨k, hk⟩ := Option.isSome_iff_exists.mp h
  cases hfind : calls.reverse.find? (accepts name) with
  | none =>
    rw [hfind, hk] at hget
    cases hget
  | some call =>
    obtain ⟨n, hlast⟩ := exists_isLastAccepted hfind
    obtain ⟨k', hk'⟩ := exists_kind_of_accepts (List.find?_some hfind)
    refine ⟨n, call, k', hlast, hk', ?_⟩
    rw [hget, hfind, Option.bind_some, hk']
    rfl

/-- **A name is registered exactly if a call for it was accepted.** -/
theorem contains_registered_iff {calls : List Registration} {name : String} :
    (registered calls).contains name = true ↔ ∃ (n : Nat) (call : Registration),
      calls[n]? = some call ∧ call.name = name ∧ (answers calls)[n]? = some (some true) := by
  constructor
  · intro h
    obtain ⟨n, call, -, hlast, -, -⟩ := exists_last_of_contains h
    exact ⟨n, call, hlast.call_eq, hlast.name_eq, hlast.accepted⟩
  · rintro ⟨n, call, hcall, hname, haccepted⟩
    rw [getElem?_answers hcall] at haccepted
    have haccepts : call.accepts name = true := by
      simp [accepts, hname, Option.some.inj haccepted]
    -- So some call for the name is found from the end, and what it gave is there.
    have hfound : (calls.reverse.find? (accepts name)).isSome = true :=
      List.find?_isSome.mpr ⟨call, List.mem_reverse.mpr (List.mem_of_getElem? hcall), haccepts⟩
    obtain ⟨found, hfind⟩ := Option.isSome_iff_exists.mp hfound
    obtain ⟨k, hk⟩ := exists_kind_of_accepts (List.find?_some hfind)
    rw [Registry.contains, registered, get?_run, hfind, Option.bind_some, hk]
    rfl

end Registration

/-! ## Registered names in schemas -/

/-- The validator of a field whose type is the name of a kind: a leaf, or an object without
fields. -/
def CustomKind.validator (name : String) : CustomKind → Validator
  | .element check => .leaf (.custom name check)
  | .object check => .object (some ⟨name, check⟩) []

namespace Notation

/-- **A name alone and as an array** denotes its kind. -/
theorem denotes_of_get? {r : Registry} {name : String} {k : CustomKind} (h : r.get? name = some k) :
    (∃ d, Denotes r name d ∧ d.validator [] = k.validator name) ∧
      ∃ d, Denotes r (name ++ arraySuffix) d ∧ d.validator [] = .array (k.validator name) := by
  cases k with
  | element check => exact ⟨⟨_, .element h, rfl⟩, ⟨_, .elements h, rfl⟩⟩
  | object check => exact ⟨⟨_, .kind h, rfl⟩, ⟨_, .kinds h, rfl⟩⟩

/-- A text of one line declares one field. -/
theorem read_single {r : Registry} {field token : String} {d : Declared}
    (hfield : IsFieldName field) (htoken : IsToken token) (hd : Denotes r token d) :
    read r (field ++ ":" ++ token) = .ok { fields := [(field, d.validator [])] } := by
  let row : Row :=
    { line := ⟨0, field, token⟩, before := [], after := [], hasReturn := false
      isFieldName := hfield, isToken := htoken
      before_blank := by simp, after_blank := by simp, before_no_tab := by simp }
  have htext : (field ++ ":" ++ token).toList = layout false [row] := by
    simp [layout, Row.write, row]
  have hlines : linesOfText (field ++ ":" ++ token).toList = [some row.write] := by
    rw [linesOfText, htext, split_layout]
    rfl
  refine readAll_eq_ok_iff.mpr ⟨[⟨0, field, d⟩], ?_, ⟨Nat.le_refl 0, trivial⟩, ?_⟩
  · rw [hlines]
    exact .cons ⟨row.write, token, rfl, row.spells_write, hd⟩ .nil
  · have hfields : declaredAt 0 [⟨0, field, d⟩] = [(field, d.validator [])] := by
      rw [declaredAt_cons (e := ⟨0, field, d⟩) [] rfl, List.takeWhile_nil, declaredAt_nil,
        declaredAt_nil]
    rw [outline, hfields]
    rfl

/-- **A type name that means nothing.**  It is refused on the first line that has one, if the depth
of the line is one that it may have. -/
theorem readBytes_of_unknown {r : Registry} {bytes : Bytes} {front rest : List (Option (List Char))}
    {text : List Char} {ls : List Line} {l : Line}
    (hlines : HasLines bytes (front ++ some text :: rest)) (hfront : IsSchema r front ls)
    (hspells : l.Spells text) (hfollow : MayFollow r ls.getLast? l)
    (hpattern : ∀ pattern, l.token ≠ patternPrefix ++ pattern) (hunknown : ¬ IsKnown r l.token) :
    readBytes r bytes = .error (.unknownType (front.length + 1) l.token) := by
  obtain ⟨b, hread⟩ := (readLines_eq_ok_iff_isSchema 1).mpr ⟨ls, hfront⟩
  have hfault : readLines r (1 + front.length) b [some text] =
      .error (.unknownType (1 + front.length) l.token) :=
    (readLines_singleton_eq_error_iff (hasRoom_of_isSchema hfront hread)).mpr
      (.unknownType hspells hfollow hpattern hunknown)
  have herror := readLines_eq_error_iff.mpr ⟨front, some text, rest, b, rfl, hread, hfault⟩
  rw [readBytes, hasLines_iff.mp hlines, readAll_eq_error_iff, herror, Nat.add_comm 1]

/-- Of names that are neither built in nor patterns, the registered ones are known. -/
theorem isKnown_iff_registered {r : Registry} {token : String}
    (hbuiltin : token ∉ ["String", "Boolean", "Int", "Object", "Object[]"])
    (hpattern : ∀ pattern, token ≠ patternPrefix ++ pattern) :
    IsKnown r token ↔
      ∃ name, r.contains name = true ∧ (token = name ∨ token = name ++ arraySuffix) := by
  constructor
  · rintro (h | ⟨pattern, h, -⟩ | h)
    · exact absurd h hbuiltin
    · exact absurd h (hpattern pattern)
    · exact h
  · intro h
    exact .inr (.inr h)

end Notation

open Notation in
/-- **Registered names are usable.**  Whatever calls are made on a new registry, a call is
accepted exactly if it gives a kind and its name is not reserved.  A call that is not accepted
changes nothing, and a name is registered exactly if a call for it was accepted.  Then any field
can have it as its type, alone and as an array, and this type is the kind of the last accepted
call.  A type name that is neither built in nor a pattern nor a registered name, alone or as an
array, is unknown. -/
theorem registered_names_are_usable (calls : List Registration) :
    (∀ (n : Nat) (call : Registration), calls[n]? = some call →
      ((Registration.answers calls)[n]? = some none ↔ call.kind? = none) ∧
      ((Registration.answers calls)[n]? = some (some true) ↔
        call.kind? ≠ none ∧ IsKindName call.name)) ∧
    (∀ (r : Registry) (call : Registration), (call.perform r).1 ≠ some true →
      (call.perform r).2 = r) ∧
    (∀ name, (Registration.registered calls).contains name = true ↔
      ∃ (n : Nat) (call : Registration), calls[n]? = some call ∧ call.name = name ∧
        (Registration.answers calls)[n]? = some (some true)) ∧
    (∀ name, (Registration.registered calls).contains name = true →
      ∃ (n : Nat) (call : Registration) (k : CustomKind),
        Registration.IsLastAccepted calls name n call ∧ call.kind? = some k ∧
        ∀ field, IsFieldName field →
          read (Registration.registered calls) (field ++ ":" ++ name) =
            .ok { fields := [(field, k.validator name)] } ∧
          read (Registration.registered calls) (field ++ ":" ++ (name ++ "[]")) =
            .ok { fields := [(field, .array (k.validator name))] }) ∧
    ∀ bytes front text rest ls l, HasLines bytes (front ++ some text :: rest) →
      IsSchema (Registration.registered calls) front ls → Line.Spells l text →
      MayFollow (Registration.registered calls) ls.getLast? l →
      l.token ∉ ["String", "Boolean", "Int", "Object", "Object[]"] →
      (∀ pattern, l.token ≠ "Regex:" ++ pattern) →
      (∀ name, (Registration.registered calls).contains name = true →
        l.token ≠ name ∧ l.token ≠ name ++ "[]") →
      readBytes (Registration.registered calls) bytes =
        .error (.unknownType (front.length + 1) l.token) := by
  refine ⟨fun _ _ => Registration.answers_iff, fun _ _ => Registration.snd_perform_of_refused,
    fun _ => Registration.contains_registered_iff, ?_, ?_⟩
  · intro name hcontains
    obtain ⟨n, call, k, hlast, hkind, hget⟩ := Registration.exists_last_of_contains hcontains
    refine ⟨n, call, k, hlast, hkind, fun field hfield => ?_⟩
    have htoken : IsToken name := (isKindName_of_get? hget).token
    obtain ⟨⟨d, hd, hvalidator⟩, ⟨ds, hds, hvalidators⟩⟩ := denotes_of_get? hget
    constructor
    · rw [read_single hfield htoken hd, hvalidator]
    · rw [← hvalidators]
      exact read_single hfield (isToken_arraySuffix htoken) hds
  · intro bytes front text rest ls l hlines hfront hspells hfollow hbuiltin hpattern hother
    refine readBytes_of_unknown hlines hfront hspells hfollow hpattern fun hknown => ?_
    obtain ⟨name, hcontains, htoken | htoken⟩ :=
      (isKnown_iff_registered hbuiltin hpattern).mp hknown
    · exact (hother name hcontains).1 htoken
    · exact (hother name hcontains).2 htoken

open Notation in
/-- A kind is registered as `Code`, and none as `String`; fields of the kind can be declared. -/
theorem registered_names_are_usable_of_code :
    let check : Check := Check.ofPredicate (·.is .string)
    let calls : List Registration := [.element "Code" check, .object "String" check]
    Registration.answers calls = [some true, some false] ∧
      (Registration.registered calls).contains "Code" = true ∧
      (Registration.registered calls).contains "String" = false ∧
      read (Registration.registered calls) "a:Code" =
        .ok { fields := [("a", .leaf (.custom "Code" check))] } ∧
      read (Registration.registered calls) "a:Code[]" =
        .ok { fields := [("a", .array (.leaf (.custom "Code" check)))] } := by
  intro check calls
  obtain ⟨haccepts, -, hcontains, husable, -⟩ := registered_names_are_usable calls
  have hcode : IsKindName "Code" := isReserved_eq_false_iff.mp (by decide +kernel)
  have hstring : ¬ IsKindName "String" := fun h => h.builtin (by decide)
  have haccepted : (Registration.answers calls)[0]? = some (some true) :=
    (haccepts 0 _ rfl).2.mpr ⟨nofun, hcode⟩
  have hrefused : (Registration.answers calls)[1]? ≠ some (some true) :=
    fun h => hstring ((haccepts 1 _ rfl).2.mp h).2
  have hregistered : (Registration.registered calls).contains "Code" = true :=
    (hcontains "Code").mpr ⟨0, _, rfl, rfl, haccepted⟩
  have hunregistered : (Registration.registered calls).contains "String" ≠ true := by
    intro h
    obtain ⟨n, call, hcall, hname, haccepted⟩ := (hcontains "String").mp h
    match n, hcall with
    | 0, hcall =>
      obtain rfl := Option.some.inj hcall
      exact absurd hname (by decide)
    | 1, _ => exact hrefused haccepted
  obtain ⟨n, call, k, hlast, hkind, hfields⟩ := husable "Code" hregistered
  have hcheck : k = .element check := by
    match n, hlast.call_eq with
    | 0, hcall =>
      obtain rfl := Option.some.inj hcall
      exact (Option.some.inj hkind).symm
    | 1, hcall =>
      obtain rfl := Option.some.inj hcall
      exact absurd hlast.name_eq (by decide)
  have hname : IsFieldName "a" := by
    refine ⟨fun c hc => ?_, by simp⟩
    obtain rfl : c = 'a' := by simpa using hc
    rfl
  obtain ⟨hplain, harray⟩ := hfields "a" hname
  subst hcheck
  exact ⟨by decide +kernel, hregistered, Bool.eq_false_iff.mpr hunregistered, hplain, harray⟩

end DocSchema
