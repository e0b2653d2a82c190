import DocSchema.Proofs.BareChecks
import DocSchema.Proofs.Notation.Declaring
import DocSchema.Settings

/-!
# A type of the settings and its pattern

The settings give names to patterns, and a schema may use such a name for a type or
spell the pattern out.  The two reach the tree in different ways: a name is looked up
among the kinds that were registered, and becomes a leaf of a custom kind; a pattern is
compiled where it stands.  They leave the same check in the same place
(`SpellsOut.exists_entry`), so documents cannot tell them apart
(`types_interchange_with_patterns`).

What shows is the type that a failure tells.  It is the one that the line of the failure
declares, in either text; so it changes exactly where this line was replaced.
-/
namespace DocSchema

/-! ## The kinds of settings -/

namespace Settings

/-- A type is added as a kind with the check of its pattern. -/
theorem addType_eq_ok_iff {r r' : Registry} {type : String × String} :
    addType r type = .ok r' ↔ ∃ p, Pattern.compile? type.2 = some p ∧
      Registry.isReserved type.1 = false ∧
        r' = (r.register type.1 (.element (Check.matching p))).2 := by
  unfold addType Registry.registerPattern?
  cases hp : Pattern.compile? type.2 with
  | none => simp
  | some p =>
    by_cases hname : Registry.isReserved type.1 = true
    · simp [Registry.registerElement, Registry.register, hname]
    · simp [Registry.registerElement, Registry.register, hname, eq_comm]

/-- **Each type of the settings is registered** with the check of its pattern; of two types with
one name the later one counts. -/
theorem get?_registry {s : Settings} {r : Registry} (h : s.registry = .ok r) {name pattern : String}
    (htype : Keyed.get? s.types.reverse name = some pattern) :
    ∃ p, Pattern.compile? pattern = some p ∧ r.get? name = some (.element (Check.matching p)) := by
  unfold registry at h
  generalize s.types = types at h htype
  -- From the end of the list, since of two types with one name the last one counts.
  induction types using List.reverseRecOn generalizing r with
  | nil => cases htype
  | append_singleton types type ih =>
    rw [List.foldlM_append] at h
    cases hfront : types.foldlM addType Registry.empty with
    | error fault =>
      rw [hfront] at h
      cases h
    | ok r₁ =>
      rw [hfront] at h
      have hlast : (addType r₁ type >>= pure) = .ok r := h
      rw [bind_pure] at hlast
      obtain ⟨p, hp, hname, rfl⟩ := addType_eq_ok_iff.mp hlast
      rw [List.reverse_append, List.reverse_singleton, List.singleton_append,
        Keyed.get?_cons] at htype
      rw [Registry.get?_register]
      split at htype
      · rename_i heq
        obtain rfl := Option.some.inj htype
        exact ⟨p, hp, if_pos ⟨heq, by simp [hname]⟩⟩
      · rename_i hne
        rw [if_neg fun hsame => hne hsame.1]
        exact ih hfront htype

end Settings

/-! ## Texts with patterns spelled out -/

/-- The type of a line can be exchanged. -/
theorem Line.Spells.exchange {front : List Char} {l : Line} {token : String}
    (h : l.Spells (front ++ l.token.toList)) (htoken : IsToken token) :
    Line.Spells { l with token } (front ++ token.toList) := by
  obtain ⟨before, after, htext, hbefore, hafter, hhead, hname, -⟩ := h
  have hfront :
      front = List.replicate l.depth '\t' ++ ((l.name.toList ++ before) ++ ':' :: after) := by
    rw [← List.append_cancel_right_eq front l.token.toList, htext]
    simp
  refine ⟨before, after, ?_, hbefore, hafter, hhead, hname, htoken⟩
  rw [hfront]
  simp

namespace Notation

/-- **A line is spelled out** as one that has the pattern of its type in place of the name. -/
inductive SpellsOut (types : List (String × String)) : List Char → List Char → Prop where
  | intro {front : List Char} {l : Line} {pattern : String} :
      Line.read? (front ++ l.token.toList) = some l →
      Keyed.get? types.reverse l.token = some pattern → (∀ c ∈ pattern.toList, isBlank c = false) →
      SpellsOut types (front ++ l.token.toList) (front ++ (patternPrefix ++ pattern).toList)

/-- **A text with some of its lines spelled out**, and its other lines as they were. -/
def IsSpelledOut (types : List (String × String)) (replaced : Nat → Prop) (text text' : String) :
    Prop :=
  (linesIn text).length = (linesIn text').length ∧
    ∀ n line line', (linesIn text)[n]? = some line → (linesIn text')[n]? = some line' →
      (¬ replaced n ∧ line' = line) ∨ (replaced n ∧ SpellsOut types line line')

theorem isToken_pattern {pattern : String} (h : ∀ c ∈ pattern.toList, isBlank c = false) :
    IsToken (patternPrefix ++ pattern) :=
  (show IsToken patternPrefix by decide).append h

/-- **The pattern leaves the check of its type.**  A line that is spelled out states an entry with
the same check. -/
theorem SpellsOut.exists_entry {s : Settings} {r : Registry} (hregistry : s.registry = .ok r)
    {line line' : List Char} (h : SpellsOut s.types line line') {e : Entry}
    (hstated : Entry.StatedBy r (some line) e) :
    ∃ e', Entry.StatedBy r (some line') e' ∧ e'.bare = e.bare := by
  obtain ⟨depth, name, declared⟩ := e
  cases h with
  | @intro front l pattern hread htype hblank =>
    obtain ⟨text, token, htext, hspells, hdenotes⟩ := hstated
    obtain rfl := Option.some.inj htext
    have hline := Line.read?_eq_some_iff.mp hread
    obtain rfl := hspells.unique hline
    obtain ⟨p, hp, hkind⟩ := Settings.get?_registry hregistry htype
    obtain rfl : declared = _ := hdenotes.unique (.element hkind)
    exact ⟨⟨depth, name, .leaf (.leaf (.pattern p))⟩,
      ⟨_, _, rfl, hline.exchange (isToken_pattern hblank), .pattern hp⟩, rfl⟩

/-- Lines, some of which are spelled out, state entries with the same checks. -/
theorem exists_entries_of_spellsOut {s : Settings} {r : Registry} (hregistry : s.registry = .ok r)
    {lines lines' : List (List Char)}
    (h : List.Forall₂ (fun line line' => line' = line ∨ SpellsOut s.types line line') lines lines')
    {es : List Entry} (hstated : List.Forall₂ (Entry.StatedBy r) (lines.map some) es) :
    ∃ es', List.Forall₂ (Entry.StatedBy r) (lines'.map some) es' ∧
      es'.map Entry.bare = es.map Entry.bare := by
  induction h generalizing es with
  | nil => exact ⟨es, hstated, rfl⟩
  | cons hline _ ih =>
    cases hstated with
    | @cons _ e _ rest hfirst hrest =>
      obtain ⟨rest', hrest', hbares⟩ := ih hrest
      obtain ⟨e', hfirst', hbare⟩ : ∃ e', Entry.StatedBy r (some _) e' ∧ e'.bare = e.bare := by
        rcases hline with rfl | hspelled
        · exact ⟨e, hfirst, rfl⟩
        · exact hspelled.exists_entry hregistry hfirst
      exact ⟨e' :: rest', .cons hfirst' hrest', by rw [List.map_cons, List.map_cons, hbare, hbares]⟩

/-- Line by line, a text is as it was or spelled out. -/
theorem IsSpelledOut.forall₂ {types : List (String × String)} {replaced : Nat → Prop}
    {text text' : String} (h : IsSpelledOut types replaced text text') :
    List.Forall₂ (fun line line' => line' = line ∨ SpellsOut types line line') (linesIn text)
      (linesIn text') := by
  refine List.forall₂_iff_get.mpr ⟨h.1, fun n hn hn' => ?_⟩
  have hline := h.2 n _ _ (List.getElem?_eq_getElem hn) (List.getElem?_eq_getElem hn')
  exact hline.imp And.right And.right

/-- Lines with the same checks have the same paths. -/
theorem paths_eq_of_map_bare_eq {es es' : List Entry} (h : es'.map Entry.bare = es.map Entry.bare) :
    Line.paths (es'.map Entry.line) = Line.paths (es.map Entry.line) := by
  -- A path is made of depths and names, and these are kept.
  have hbare : ∀ (es : List Entry) (before : List String),
      (Line.placed before ((es.map Entry.bare).map Entry.line)).map Prod.fst =
        (Line.placed before (es.map Entry.line)).map Prod.fst := by
    intro es
    induction es with
    | nil => exact fun _ => rfl
    | cons e rest ih =>
      intro before
      simp only [List.map_cons, Line.placed]
      exact congrArg _ (ih _)
  rw [Line.paths, Line.paths, ← hbare, h, hbare]

/-- A text with patterns spelled out is a schema with the same checks at the same paths. -/
theorem IsSpelledOut.exists_read {s : Settings} {r : Registry} (hregistry : s.registry = .ok r)
    {replaced : Nat → Prop} {text text' : String} (h : IsSpelledOut s.types replaced text text')
    {o : ObjectValidator} (hread : read r text = .ok o) :
    ∃ o', read r text' = .ok o' ∧ o'.bare = o.bare ∧
      Line.paths (declarations text') = Line.paths (declarations text) := by
  obtain ⟨es, hstated, hclimbs, rfl⟩ := readAll_eq_ok_iff.mp hread
  obtain ⟨es', hstated', hbare⟩ := exists_entries_of_spellsOut hregistry h.forall₂ hstated
  have hclimbs' : Climbs 0 es' := by
    rw [← climbs_map_bare, hbare, climbs_map_bare]
    exact hclimbs
  refine ⟨outline es', readAll_eq_ok_iff.mpr ⟨es', hstated', hclimbs', rfl⟩, ?_, ?_⟩
  · rw [bare_outline, bare_outline, hbare]
  · rw [declarations_eq (map_read?_of_statedBy hstated),
      declarations_eq (map_read?_of_statedBy hstated'), paths_eq_of_map_bare_eq hbare]

/-- The declaration in a line that is spelled out. -/
theorem SpellsOut.exists_pattern {types : List (String × String)} {line line' : List Char}
    (h : SpellsOut types line line') {l : Line} (hread : Line.read? line = some l) :
    ∃ pattern, Keyed.get? types.reverse l.token = some pattern ∧
      Line.read? line' = some { l with token := patternPrefix ++ pattern } := by
  cases h with
  | intro hread' htype hblank =>
    obtain rfl := Option.some.inj (hread'.symm.trans hread)
    have hspells := (Line.read?_eq_some_iff.mp hread).exchange (isToken_pattern hblank)
    exact ⟨_, htype, Line.read?_eq_some_iff.mpr hspells⟩

/-- **What becomes of a declaration**: it is as it was, or has the pattern of its type. -/
theorem IsSpelledOut.declaration {types : List (String × String)} {replaced : Nat → Prop}
    {text text' : String} (h : IsSpelledOut types replaced text text') {r : Registry}
    {o o' : ObjectValidator} (hread : read r text = .ok o) (hread' : read r text' = .ok o')
    {n : Nat} {l l' : Line} (hl : (declarations text)[n]? = some l)
    (hl' : (declarations text')[n]? = some l') :
    (¬ replaced n ∧ l' = l) ∨
      (replaced n ∧ ∃ pattern, Keyed.get? types.reverse l.token = some pattern ∧
        l' = { l with token := patternPrefix ++ pattern }) := by
  obtain ⟨line, hline, hreadLine⟩ := exists_line_of_declarations hread hl
  obtain ⟨line', hline', hreadLine'⟩ := exists_line_of_declarations hread' hl'
  rcases h.2 n line line' hline hline' with ⟨hnot, rfl⟩ | ⟨hreplaced, hspelled⟩
  · exact .inl ⟨hnot, Option.some.inj (hreadLine'.symm.trans hreadLine)⟩
  · obtain ⟨pattern, htype, hpattern⟩ := hspelled.exists_pattern hreadLine
    exact .inr ⟨hreplaced, pattern, htype, Option.some.inj (hreadLine'.symm.trans hpattern)⟩

end Notation

/-! ## Failures -/

open Notation

/-- **Failures that differ in a spelled out type at most.**  The elements of the traces are the same
but for the innermost ones, and these are the same unless the line of the failure is spelled out;
then one tells the name of a type where the other one tells its pattern. -/
def DifferInPattern (types : List (String × String)) (replaced : Nat → Prop) (text : String)
    (f f' : Failure) : Prop :=
  ∃ e e' around n l, f.trace = e :: around ∧ f'.trace = e' :: around ∧
    IsLineOf (declarations text) (f.positions.map (·.name)) n l ∧
    (¬ replaced n → e' = e) ∧
    (replaced n → e.validator = l.token ∧
      ∃ pattern, Keyed.get? types.reverse l.token = some pattern ∧
        e' = { e with validator := patternPrefix ++ pattern })

theorem differInPattern_of_validate {s : Settings} {r : Registry} (hregistry : s.registry = .ok r)
    {replaced : Nat → Prop} {text text' : String} (h : IsSpelledOut s.types replaced text text')
    {o o' : ObjectValidator} (hread : read r text = .ok o) (hread' : read r text' = .ok o')
    (hpaths : Line.paths (declarations text') = Line.paths (declarations text)) {d : Json}
    {f f' : Failure} (hf : Schema.validate ⟨o⟩ d = .error f)
    (hf' : Schema.validate ⟨o'⟩ d = .error f') (hbare : f.bare = f'.bare) :
    DifferInPattern s.types replaced text f f' := by
  obtain ⟨e, around, n, l, htrace, hnested, hline, htoken⟩ := exists_isLineOf_of_validate hread hf
  obtain ⟨e', around', n', l', htrace', -, hline', htoken'⟩ :=
    exists_isLineOf_of_validate hread' hf'
  obtain ⟨type, htype⟩ := Failure.exists_type_of_bare_eq_bare hbare htrace hnested
  obtain ⟨rfl, rfl⟩ := List.cons.inj (htype.symm.trans htrace')
  have hpositions : f'.positions = f.positions := by
    simp [Failure.positions, htrace, htrace', TraceElement.position]
  rw [hpositions] at hline'
  obtain rfl := hline'.index_eq hline hpaths
  have hcases := h.declaration hread hread' hline.line_eq hline'.line_eq
  refine ⟨e, _, around, _, l, htrace, htrace', hline, fun hnot => ?_, fun hreplaced => ?_⟩
  · obtain ⟨-, rfl⟩ := hcases.resolve_right fun hspelled => hnot hspelled.1
    have htypes : type ++ e.position.mark = e.validator ++ e.position.mark :=
      htoken'.symm.trans htoken
    rw [String.append_left_inj] at htypes
    rw [htypes]
  · obtain ⟨-, pattern, hpattern, rfl⟩ := hcases.resolve_left fun hsame => hsame.1 hreplaced
    obtain ⟨p, -, hkind⟩ := Settings.get?_registry hregistry hpattern
    -- A registered name does not end like an array, so the fault is no element of one.
    have hmark : e.position.mark = "" := by
      unfold Position.mark at htoken ⊢
      split at htoken
      · exact absurd htoken ((isKindName_of_get? hkind).array _)
      · exact if_neg ‹_›
    have htypes : patternPrefix ++ pattern = type ++ e.position.mark := htoken'
    rw [hmark, String.append_empty] at htoken htypes
    exact ⟨htoken.symm, pattern, hpattern, by rw [htypes]⟩

/-- **A type of the settings is interchangeable with its pattern.**  If a text is a schema, it
remains one when any of its lines that have such a type are spelled out.  A document is accepted
with both schemas, and the same is recorded, or it is refused with both; and what the failures
tell differs at most in the type that is spelled out, on the line of the failure. -/
theorem types_interchange_with_patterns {s : Settings} {r : Registry}
    (hregistry : s.registry = .ok r) {text : String} {o : ObjectValidator}
    (hread : read r text = .ok o) {replaced : Nat → Prop} {text' : String}
    (h : IsSpelledOut s.types replaced text text') :
    ∃ o', read r text' = .ok o' ∧ ∀ d : Json,
      (∃ c, Schema.validate ⟨o⟩ d = .ok c ∧ Schema.validate ⟨o'⟩ d = .ok c) ∨
      ∃ f f', Schema.validate ⟨o⟩ d = .error f ∧ Schema.validate ⟨o'⟩ d = .error f' ∧
        DifferInPattern s.types replaced text f f' := by
  obtain ⟨o', hread', hbare, hpaths⟩ := h.exists_read hregistry hread
  refine ⟨o', hread', fun d => ?_⟩
  rcases @Schema.validate_of_bare_eq_bare ⟨o⟩ ⟨o'⟩ hbare.symm d with haccepted | hrefused
  · exact .inl haccepted
  · obtain ⟨f, f', hf, hf', hfailures⟩ := hrefused
    exact .inr ⟨f, f', hf, hf',
      differInPattern_of_validate hregistry h hread hread' hpaths hf hf' hfailures⟩

/-- The second line of a code is spelled out, and an item has a code that is none. -/
theorem types_interchange_with_patterns_for_code :
    let s : Settings := { types := [("Code", "^a+$")] }
    let p : Pattern := (Pattern.compile? "^a+$").get (by decide)
    let r := (Registry.empty.registerElement "Code" (Check.matching p)).2
    let text := "code:Code\nitems:Object[]\n\tcode:Code\n"
    let text' := "code:Code\nitems:Object[]\n\tcode:Regex:^a+$\n"
    let code : Validator := .leaf (.custom "Code" (Check.matching p))
    let schema (itemCode : Validator) : Schema :=
      ⟨{ fields := [("code", code), ("items", .array (.object none [("code", itemCode)]))] }⟩
    let d : Json :=
      .object [("code", .string "aa"), ("items", .array [.object [("code", .string "b")]])]
    let failure (type : String) : Failure := ⟨[⟨type, "code", none, .rejected, some "string"⟩,
      ⟨"Object", "items", some 0, .nested, some "object"⟩,
      ⟨"Object", "", none, .nested, some "object"⟩]⟩
    s.registry = .ok r ∧ read r text = .ok (schema code).root ∧
      IsSpelledOut s.types (· = 2) text text' ∧
      read r text' = .ok (schema (.leaf (.pattern p))).root ∧
      (schema code).validate d = .error (failure "Code") ∧
      (schema (.leaf (.pattern p))).validate d = .error (failure "Regex:^a+$") ∧
      DifferInPattern s.types (· = 2) text (failure "Code") (failure "Regex:^a+$") := by
  intro s p r text text' code schema d failure
  have hp : Pattern.compile? "^a+$" = some p := by simp [p]
  have hregistry : s.registry = .ok r := by rfl
  have hread : read r text = .ok (schema code).root := by
    subst text
    rfl
  have hread' : read r text' = .ok (schema (.leaf (.pattern p))).root := by
    subst text'
    have hclimbs : Climbs 0 [⟨0, "code", .leaf code⟩, ⟨0, "items", .opens {} true⟩,
        ⟨1, "code", .leaf (.leaf (.pattern p))⟩] :=
      ⟨Nat.le_refl 0, Nat.le_refl 0, Nat.le_refl 1, trivial⟩
    refine readAll_eq_ok_iff.mpr ⟨_, ?_, hclimbs, ?_⟩
    · exact .cons ⟨_, _, rfl, Line.read?_eq_some_iff.mp rfl, .element rfl⟩
        (.cons ⟨_, _, rfl, Line.read?_eq_some_iff.mp rfl, .objects⟩
          (.cons ⟨_, _, rfl, Line.read?_eq_some_iff.mp rfl, .pattern hp⟩ .nil))
    · simp [outline, declaredAt]
      rfl
  have hfails : (schema code).validate d = .error (failure "Code") := by rfl
  have hfails' : (schema (.leaf (.pattern p))).validate d = .error (failure "Regex:^a+$") := by rfl
  have hspelled : IsSpelledOut s.types (· = 2) text text' := by
    have hlines : linesIn text =
        ["code:Code".toList, "items:Object[]".toList, "\tcode:Code".toList] := by
      subst text
      rfl
    have hlines' : linesIn text' =
        ["code:Code".toList, "items:Object[]".toList, "\tcode:Regex:^a+$".toList] := by
      subst text'
      rfl
    rw [IsSpelledOut, hlines, hlines']
    refine ⟨Eq.refl 3, fun n line line' hline hline' => ?_⟩
    have hpattern : IsToken "^a+$" := by decide
    rcases n with _ | _ | _ | n
    · exact .inl ⟨by decide, Option.some.inj (hline'.symm.trans hline)⟩
    · exact .inl ⟨by decide, Option.some.inj (hline'.symm.trans hline)⟩
    · obtain rfl := Option.some.inj hline
      obtain rfl := Option.some.inj hline'
      exact .inr ⟨rfl, @SpellsOut.intro s.types "\tcode:".toList ⟨1, "code", "Code"⟩ "^a+$"
        (by decide) rfl hpattern.chars⟩
    · simp only [List.getElem?_cons_succ, List.getElem?_nil, reduceCtorEq] at hline
  obtain ⟨o', ho', houtcome⟩ := types_interchange_with_patterns hregistry hread hspelled
  obtain rfl := Except.ok.inj (hread'.symm.trans ho')
  rcases houtcome d with ⟨c, haccepted, -⟩ | ⟨f, f', hf, hf', hdiffer⟩
  · exact absurd (hfails.symm.trans haccepted) (by simp)
  · obtain rfl := Except.error.inj (hfails.symm.trans hf)
    obtain rfl := Except.error.inj (hfails'.symm.trans hf')
    exact ⟨hregistry, hread, hspelled, hread', hfails, hfails', hdiffer⟩

end DocSchema
