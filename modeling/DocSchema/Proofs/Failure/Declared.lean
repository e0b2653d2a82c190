import DocSchema.Proofs.Failure.Path
import DocSchema.Report.Declarations

/-!
# The field of a failure is declared

The report on a schema lists its fields from the root down, and a failure collects
its positions from the fault up.  Both name fields in the same way: the positions of
a failure lead from field to field (`Leads`), and each field that is led to is listed,
with the type that the innermost element of the failure tells (`Leads.mem_ofFields`).

The two texts differ in two respects.  A failure tells which element of an array it
is about, and it leaves out members without a name, which the report does not.
Without the indices, and cut into the steps that have a text, they are the same.
-/
namespace DocSchema

/-! ## From field to field -/

/-- **Positions lead to a validator**: the first of them to what a field requires, and each
further one to what a field of the object before it requires. -/
inductive Leads : List (String × Validator) → List Position → Validator → Prop where
  | here {fields : List (String × Validator)} {pos : Position} {v : Validator} :
      Requires fields pos v → Leads fields [pos] v
  | deeper {fields inner : List (String × Validator)} {hook : Option Hook} {pos : Position}
      {rest : List Position} {v : Validator} : Requires fields pos (.object hook inner) →
      Leads inner rest v → Leads fields (pos :: rest) v

theorem Leads.ne_nil {fields : List (String × Validator)} {ps : List Position} {v : Validator}
    (h : Leads fields ps v) : ps ≠ [] := by
  cases h <;> simp

theorem Locates.standsFor {c : Context} {v : Validator} {node : Json} {e : TraceElement}
    {es : List TraceElement} (h : Locates c v node (e :: es)) : e.StandsFor v node := by
  cases h <;> assumption

/-- What a walk to a fault says of the field at its end. -/
theorem Locates.leads {c : Context} {v : Validator} {node : Json} {e next : TraceElement}
    {rest : List TraceElement} (h : Locates c v node (e :: next :: rest)) :
    ∃ hook fields w, v = .object hook fields ∧
      Leads fields ((next :: rest).map TraceElement.position) w ∧
      ∀ last, (next :: rest).getLast? = some last → last.validator = w.token := by
  induction rest generalizing v node e next with
  | nil =>
    cases h with
    | missing _ _ hfield _ =>
      refine ⟨_, _, _, rfl, .here (.member hfield), fun last hlast => ?_⟩
      obtain rfl := Option.some.inj hlast
      rfl
    | deeper _ _ hrequires _ hrest =>
      refine ⟨_, _, _, rfl, .here hrequires, fun last hlast => ?_⟩
      obtain rfl := Option.some.inj hlast
      exact hrest.standsFor.validator
  | cons further rest ih =>
    cases h with
    | deeper _ _ hrequires _ hrest =>
      obtain ⟨hook, inner, w, rfl, hleads, hlast⟩ := ih hrest
      exact ⟨_, _, w, rfl, .deeper hrequires hleads, fun last h => hlast last (by simpa using h)⟩

/-- **The positions of a failure lead to the validator that failed.** -/
theorem Schema.leads_of_validate {s : Schema} (hplain : s.root.hook = none)
    (hflat : s.root.toValidator.FlatArrays) {d : Json} {f : Failure} (h : s.validate d = .error f) :
    ∃ e v, f.innermost = some e ∧ f.positions.getLast? = some e.position ∧
      Leads s.root.fields f.positions v ∧ e.validator = v.token := by
  obtain ⟨root, steps, c, htrace, -, -, hlocates⟩ := Schema.locates_of_validate hflat h
  rw [ObjectValidator.toValidator, hplain] at hlocates
  have hinnermost : f.innermost = (root :: steps).getLast? := by
    rw [Failure.innermost, ← htrace, List.getLast?_reverse]
  have hpositions : f.positions = steps.map TraceElement.position := by
    rw [Failure.positions, htrace, List.tail_cons]
  cases steps with
  | nil =>
    -- The document itself is asked for nothing but its fields.
    cases hlocates with
    | fault _ hrefuses => cases hrefuses
  | cons next rest =>
    obtain ⟨hook, fields, v, hroot, hleads, hlast⟩ := hlocates.leads
    obtain ⟨-, rfl⟩ := Validator.object.inj hroot
    obtain ⟨e, he⟩ :=
      Option.isSome_iff_exists.mp (List.getLast?_isSome.mpr (List.cons_ne_nil next rest))
    refine ⟨e, v, ?_, ?_, hpositions ▸ hleads, hlast e he⟩
    · rw [hinnermost, List.getLast?_cons_cons, he]
    · rw [hpositions, List.getLast?_map, he]
      rfl

/-- All elements of a trace but the innermost only pass the failure on. -/
theorem Schema.nested_of_validate {s : Schema} (hflat : s.root.toValidator.FlatArrays) {d : Json}
    {f : Failure} (h : s.validate d = .error f) :
    ∀ e ∈ f.trace.tail, e.reason = .nested := by
  obtain ⟨root, steps, c, htrace, -, -, hlocates⟩ := Schema.locates_of_validate hflat h
  have hnested := hlocates.reasons.1
  rw [← htrace, List.dropLast_reverse] at hnested
  exact fun e he => hnested e (List.mem_reverse.mpr he)

/-! ## Fields in the report -/

/-- What stands for an index in the report. -/
def Position.mark (p : Position) : String := if p.index.isSome then arraySuffix else ""

/-- The position as a step of a path in the report. -/
def Position.step (p : Position) : String := p.name ++ p.mark

/-- The path in the report of the field that positions lead to. -/
def Declaration.pathBelow (above : String) : List Position → String
  | [] => above
  | [p] => join above p.name
  | p :: ps => pathBelow (join above p.step) ps

namespace Declaration

theorem join_append (above name more : String) :
    join above name ++ more = join above (name ++ more) := by
  by_cases h : above = "" <;> simp [join, h, String.append_assoc]

theorem mem_ofFields {fields : List (String × Validator)} {name : String} {v : Validator}
    (h : (name, v) ∈ fields) (above : String) :
    ⟨join above name, v.token⟩ ∈ ofFields above fields ∧
      ∀ d ∈ below (join above name) v, d ∈ ofFields above fields := by
  induction fields with
  | nil => exact absurd h List.not_mem_nil
  | cons field rest ih =>
    obtain ⟨name', v'⟩ := field
    rw [ofFields]
    rcases List.mem_cons.mp h with heq | h
    · obtain ⟨rfl, rfl⟩ := Prod.mk.inj heq
      exact ⟨List.mem_cons_self, fun d hd => List.mem_cons_of_mem _ (List.mem_append_left _ hd)⟩
    · obtain ⟨hfield, hbelow⟩ := ih h
      exact ⟨List.mem_cons_of_mem _ (List.mem_append_right _ hfield),
        fun d hd => List.mem_cons_of_mem _ (List.mem_append_right _ (hbelow d hd))⟩

/-- What is required at a position is listed with the type of its field, and so are the fields of
an object there. -/
theorem mem_ofFields_of_requires {fields : List (String × Validator)} {pos : Position}
    {v : Validator} (h : Requires fields pos v) (above : String) :
    ⟨join above pos.name, v.token ++ pos.mark⟩ ∈ ofFields above fields ∧
      ∀ hook inner, v = .object hook inner →
        ∀ d ∈ ofFields (join above pos.step) inner, d ∈ ofFields above fields := by
  cases h with
  | @member name v hfield =>
    obtain ⟨hlisted, hbelow⟩ := mem_ofFields hfield above
    refine ⟨by simpa [Position.mark] using hlisted, ?_⟩
    rintro hook inner rfl d hd
    exact hbelow d (by simpa [below, Position.step, Position.mark] using hd)
  | @item name v i hfield =>
    obtain ⟨hlisted, hbelow⟩ := mem_ofFields hfield above
    refine ⟨by simpa [Position.mark, Validator.token] using hlisted, ?_⟩
    rintro hook inner rfl d hd
    exact hbelow d (by simpa [below, join_append, Position.step, Position.mark] using hd)

end Declaration

/-- **Each field that positions lead to is listed.** -/
theorem Leads.mem_ofFields {fields : List (String × Validator)} {ps : List Position} {v : Validator}
    (h : Leads fields ps v) {last : Position} (hlast : ps.getLast? = some last) (above : String) :
    ⟨Declaration.pathBelow above ps, v.token ++ last.mark⟩ ∈ Declaration.ofFields above fields := by
  induction h generalizing above with
  | here hrequires =>
    obtain rfl := Option.some.inj hlast
    exact (Declaration.mem_ofFields_of_requires hrequires above).1
  | @deeper fields inner hook pos rest v hrequires hleads ih =>
    obtain ⟨q, qs, rfl⟩ := List.exists_cons_of_ne_nil hleads.ne_nil
    rw [List.getLast?_cons_cons] at hlast
    exact (Declaration.mem_ofFields_of_requires hrequires above).2 hook inner rfl _ (ih hlast _)

/-! ## Texts of paths -/

namespace FieldPath

/-- Leaves out what stands between brackets. -/
def dropInside (inside : Bool) : List Char → List Char
  | [] => []
  | c :: s =>
    if c = '[' then c :: dropInside true s
    else if c = ']' then c :: dropInside false s
    else if inside then dropInside true s
    else c :: dropInside false s

/-- A path with empty brackets in place of each index. -/
def withoutIndices (path : String) : String := String.ofList (dropInside false path.toList)

/-- The steps of a path that have a text. -/
def steps (path : String) : List (List Char) := (path.toList.splitOn '.').filter (· ≠ [])

theorem dropInside_false_append {s : List Char} (h : ∀ c ∈ s, c ≠ '[' ∧ c ≠ ']') (t : List Char) :
    dropInside false (s ++ t) = s ++ dropInside false t := by
  induction s with
  | nil => rfl
  | cons c s ih =>
    rw [List.forall_mem_cons] at h
    rw [List.cons_append, dropInside, if_neg h.1.1, if_neg h.1.2, if_neg Bool.false_ne_true, ih h.2,
      List.cons_append]

theorem dropInside_true_append {s : List Char} (h : ∀ c ∈ s, c ≠ '[' ∧ c ≠ ']') (t : List Char) :
    dropInside true (s ++ t) = dropInside true t := by
  induction s with
  | nil => rfl
  | cons c s ih =>
    rw [List.forall_mem_cons] at h
    rw [List.cons_append, dropInside, if_neg h.1.1, if_neg h.1.2, if_pos rfl, ih h.2]

/-- Without its index a position in a path is a step in the report. -/
theorem dropInside_text_append {p : Position} (hname : IsFieldName p.name) (t : List Char) :
    dropInside false (p.text.toList ++ t) = p.step.toList ++ dropInside false t := by
  have hbrackets : ∀ c ∈ p.name.toList, c ≠ '[' ∧ c ≠ ']' := fun c hc =>
    ⟨hname.ne_of_mem hc (by decide), hname.ne_of_mem hc (by decide)⟩
  rw [Position.toList_text, Position.step, String.toList_append, List.append_assoc,
    dropInside_false_append hbrackets]
  obtain ⟨name, _ | i⟩ := p
  · simp [Position.mark]
  · have hdigits : ∀ c ∈ Nat.toDigits 10 i, c ≠ '[' ∧ c ≠ ']' := by
      intro c hc
      have hdigit : c.isDigit = true := Nat.isDigit_of_mem_toDigits (by decide) (by decide) hc
      constructor <;> rintro rfl <;> exact absurd hdigit (by decide)
    simp [Position.mark, arraySuffix, dropInside, dropInside_true_append hdigits]

theorem withoutIndices_intercalate {ps : List Position} (hnames : ∀ p ∈ ps, IsFieldName p.name) :
    withoutIndices (".".intercalate (ps.map (·.text))) = ".".intercalate (ps.map (·.step)) := by
  rw [withoutIndices, ← String.toList_inj, String.toList_ofList, String.toList_intercalate,
    String.toList_intercalate]
  induction ps with
  | nil => rfl
  | cons p ps ih =>
    rw [List.forall_mem_cons] at hnames
    cases ps with
    | nil => simpa [dropInside] using dropInside_text_append hnames.1 []
    | cons q ps =>
      have hrest := ih hnames.2
      simp only [List.map_cons, List.intercalate_cons_cons, List.append_assoc] at hrest ⊢
      rw [dropInside_text_append hnames.1, List.append_cancel_left_eq]
      exact congrArg ('.' :: ·) hrest

theorem steps_of_not_mem {s : String} (h : '.' ∉ s.toList) :
    steps s = [s.toList].filter (· ≠ []) := by
  rw [steps, List.splitOn_eq_singleton h]

theorem steps_intercalate {xs : List String} (h : ∀ x ∈ xs, '.' ∉ x.toList) :
    steps (".".intercalate xs) = (xs.map String.toList).filter (· ≠ []) := by
  cases xs with
  | nil => rfl
  | cons x xs =>
    have hdots : ∀ l ∈ (x :: xs).map String.toList, '.' ∉ l := List.forall_mem_map.mpr h
    rw [steps, String.toList_intercalate, show ".".toList = ['.'] from rfl,
      List.splitOn_intercalate '.' hdots (by simp)]

theorem steps_join (above : String) {name : String} (h : '.' ∉ name.toList) :
    steps (Declaration.join above name) = steps above ++ [name.toList].filter (· ≠ []) := by
  by_cases habove : above = ""
  · subst habove
    rw [Declaration.join, if_pos rfl, steps_of_not_mem h]
    rfl
  · have htext : (above ++ "." ++ name).toList = above.toList ++ '.' :: name.toList := by simp
    rw [Declaration.join, if_neg habove, steps, htext, List.splitOn_append_cons_self,
      List.filter_append, ← steps_of_not_mem h]
    rfl

end FieldPath

namespace Position

/-- A step has a text exactly if the position is shown in a path. -/
theorem step_ne_nil_iff (p : Position) : p.step.toList ≠ [] ↔ p.isShown = true := by
  obtain ⟨name, _ | i⟩ := p
  · simp [step, mark, isShown]
  · simp [step, mark, isShown, arraySuffix]

theorem dot_not_mem_step {p : Position} (hname : IsFieldName p.name) : '.' ∉ p.step.toList := by
  have hdot : '.' ∉ p.name.toList := hname.not_mem (by decide)
  obtain ⟨name, _ | i⟩ := p
  · simpa [step, mark] using hdot
  · simpa [step, mark, arraySuffix] using hdot

end Position

/-- The path of a field in the report has the steps of the positions that lead to it. -/
theorem Declaration.steps_pathBelow {before : List Position} {last : Position}
    (hnames : ∀ p ∈ before ++ [last], IsFieldName p.name) (above : String) :
    FieldPath.steps (pathBelow above (before ++ [last])) = FieldPath.steps above ++
      ((before.map (·.step) ++ [last.name]).map String.toList).filter (· ≠ []) := by
  induction before generalizing above with
  | nil => exact FieldPath.steps_join above ((hnames last (by simp)).not_mem (by decide))
  | cons p before ih =>
    rw [List.cons_append, List.forall_mem_cons] at hnames
    have hbelow : pathBelow above (p :: (before ++ [last])) =
        pathBelow (join above p.step) (before ++ [last]) := by
      cases before <;> rfl
    rw [List.cons_append, hbelow, ih hnames.2,
      FieldPath.steps_join above (Position.dot_not_mem_step hnames.1), List.append_assoc,
      ← List.filter_append]
    rfl

/-! ## A failure and the report -/

/-- Positions that are not shown have steps without a text. -/
theorem filter_map_step (ps : List Position) :
    (((ps.filter (·.isShown)).map (·.step)).map String.toList).filter (· ≠ []) =
      ((ps.map (·.step)).map String.toList).filter (· ≠ []) := by
  have hshown : ((fun s : List Char => decide (s ≠ [])) ∘ String.toList ∘ Position.step) =
      Position.isShown := by
    funext p
    rw [Bool.eq_iff_iff]
    simpa using p.step_ne_nil_iff
  simp only [List.map_map, List.filter_map, hshown, List.filter_filter, Bool.and_self]

theorem intercalate_concat_append (xs : List String) (a b : String) :
    ".".intercalate (xs ++ [a ++ b]) = ".".intercalate (xs ++ [a]) ++ b := by
  cases xs with
  | nil => simp
  | cons x xs =>
    rw [String.intercalate_append_of_ne_nil (by simp) (by simp),
      String.intercalate_append_of_ne_nil (by simp) (by simp)]
    simp [String.append_assoc]

/-- **A path without its indices.**  If the fault is an element of an array, brackets stand at its
end, and what stands before them has the steps of the positions. -/
theorem FieldPath.exists_base {before : List Position} {last : Position}
    (hnames : ∀ p ∈ before ++ [last], IsFieldName p.name) :
    ∃ base,
      withoutIndices (".".intercalate (((before ++ [last]).filter (·.isShown)).map (·.text))) =
        base ++ last.mark ∧
      steps base = ((before.map (·.step) ++ [last.name]).map String.toList).filter (· ≠ []) := by
  have hshown : ∀ p ∈ (before ++ [last]).filter (·.isShown), IsFieldName p.name := fun p hp =>
    hnames p (List.mem_of_mem_filter hp)
  have hlast : '.' ∉ last.name.toList := (hnames last (by simp)).not_mem (by decide)
  have hdots : ∀ s ∈ (before.filter (·.isShown)).map (·.step), '.' ∉ s.toList := by
    refine List.forall_mem_map.mpr fun p hp => Position.dot_not_mem_step (hnames p ?_)
    exact List.mem_append_left _ (List.mem_of_mem_filter hp)
  rw [withoutIndices_intercalate hshown, List.filter_append, List.map_append, List.map_append,
    List.filter_append, ← filter_map_step]
  by_cases hlastShown : last.isShown = true
  · refine ⟨".".intercalate ((before.filter (·.isShown)).map (·.step) ++ [last.name]), ?_, ?_⟩
    · rw [← intercalate_concat_append]
      simp [hlastShown, Position.step]
    · have hall : ∀ s ∈ (before.filter (·.isShown)).map (·.step) ++ [last.name],
          '.' ∉ s.toList := by
        rw [List.forall_mem_append]
        exact ⟨hdots, by simpa using hlast⟩
      rw [steps_intercalate hall, List.map_append, List.filter_append]
  · -- Without a name and an index the last position adds nothing.
    obtain ⟨hname, hindex⟩ : last.name = "" ∧ last.index = none := by
      simpa [Position.isShown] using hlastShown
    refine ⟨".".intercalate ((before.filter (·.isShown)).map (·.step)), ?_, ?_⟩
    · simp [hlastShown, Position.mark, hindex]
    · rw [steps_intercalate hdots, hname]
      simp

/-- **The field of a failure is declared.**  For every failure of a schema that is read from a text
there is a field in the report on the schema, with the type of the validator that failed and the
path of the failure: without the indices in it, and without steps that have no text.  If the fault
is an element of an array, the field is the array. -/
theorem failure_is_declared {r : Registry} {bytes : Bytes} {o : ObjectValidator}
    (hread : Notation.readBytes r bytes = .ok o) {d : Json} {f : Failure}
    (h : Schema.validate ⟨o⟩ d = .error f) :
    ∃ e base declaration, f.innermost = some e ∧
      FieldPath.withoutIndices f.path = base ++ e.position.mark ∧
      declaration ∈ Declaration.ofSchema ⟨o⟩ ∧
      FieldPath.steps declaration.path = FieldPath.steps base ∧
      declaration.type = e.validator ++ e.position.mark := by
  have hplain := (Notation.isExpressible_of_outlines (Notation.readAll_eq_ok_iff.mp hread)).plain
  obtain ⟨e, v, he, hlast, hleads, hvalidator⟩ :=
    Schema.leads_of_validate (s := ⟨o⟩) hplain (Notation.flatArrays_of_readBytes hread) h
  obtain ⟨hnames, hpath⟩ := Notation.path_of_readBytes hread h
  obtain ⟨before, hpositions⟩ : ∃ before, f.positions = before ++ [e.position] :=
    ⟨_, (List.dropLast_append_getLast? _ hlast).symm⟩
  have hlisted := hleads.mem_ofFields hlast ""
  rw [hpositions] at hnames hpath hlisted
  obtain ⟨base, hbase, hsteps⟩ := FieldPath.exists_base hnames
  refine ⟨e, base, _, he, by rw [hpath, hbase], hlisted, ?_, by rw [hvalidator]⟩
  rw [Declaration.steps_pathBelow hnames, hsteps]
  rfl

/-- The second tag, below a member without a name, is refused by a check of its own. -/
theorem failure_is_declared_for_tag :
    let check : Check := Check.ofPredicate (·.is .string)
    let r := (Registry.empty.registerElement "Tag" check).2
    let bytes := Bytes.ofText "items:Object[]\n\t:Object\n\t\ttags:Tag[]\n"
    let tags : Validator := .array (.leaf (.custom "Tag" check))
    let o : ObjectValidator := { fields := [("items",
      .array (.object none [("", .object none [("tags", tags)])]))] }
    let d : Json := .object [("items",
      .array [.object [("", .object [("tags", .array [.string "a", .null])])]])]
    let f : Failure := ⟨[⟨"Tag", "tags", some 1, .rejected, some "null"⟩,
      ⟨"Object", "", none, .nested, some "object"⟩,
      ⟨"Object", "items", some 0, .nested, some "object"⟩,
      ⟨"Object", "", none, .nested, some "object"⟩]⟩
    Notation.readBytes r bytes = .ok o ∧ Schema.validate ⟨o⟩ d = .error f ∧
      f.path = "items[0].tags[1]" ∧ ⟨"items[]..tags", "Tag[]"⟩ ∈ Declaration.ofSchema ⟨o⟩ ∧
      ∃ e base declaration, f.innermost = some e ∧
        FieldPath.withoutIndices f.path = base ++ e.position.mark ∧
        declaration ∈ Declaration.ofSchema ⟨o⟩ ∧
        FieldPath.steps declaration.path = FieldPath.steps base ∧
        declaration.type = e.validator ++ e.position.mark := by
  intro check r bytes tags o d f
  have hread : Notation.readBytes r bytes = .ok o := by rfl
  have hfails : Schema.validate ⟨o⟩ d = .error f := by rfl
  exact ⟨hread, hfails, by decide, by decide, failure_is_declared hread hfails⟩

end DocSchema
