import DocSchema.Proofs.Failure.Location

/-!
# What a path tells

The path of a failure shows the positions from the document down to the fault,
joined by dots, but leaves out a member whose name is empty.  Nothing else is
lost: a field name holds neither a dot nor a bracket, so a path can be cut at its
dots, and each piece at its bracket, and the index is given back by its digits.
So two failures of a schema have one path exactly if their positions agree up to
members without a name (`path_eq_iff_shown_positions`).

The document itself has no name either, which is why it is left out of every
path.  A schema may declare a field without a name, though, and such a member is
left out like the document: two places can then share one path
(`path_shared_past_unnamed_member`).
-/
namespace DocSchema

/-! ## Positions and their texts -/

/-- The position is shown in a path: it has a name, or the index of an element. -/
def Position.isShown (p : Position) : Bool := p.name ≠ "" || p.index.isSome

/-- A position as a step of a path. -/
def Position.text (p : Position) : String :=
  p.name ++ match p.index with
    | none => ""
    | some i => TraceElement.indexText i

/-- The positions of a failure, from a member of the document down to the fault. -/
def Failure.positions (f : Failure) : List Position :=
  f.trace.reverse.tail.map TraceElement.position

theorem TraceElement.segment_eq (e : TraceElement) :
    e.segment = if e.position.isShown then some e.position.text else none := by
  obtain ⟨validator, field, index, reason, found⟩ := e
  cases index with
  | some i => simp [segment, position, Position.isShown, Position.text]
  | none =>
    by_cases hname : field = "" <;>
      simp [segment, position, Position.isShown, Position.text, hname]

/-- A path shows the positions below the document that can be shown. -/
theorem Failure.segments_eq {f : Failure} {root : TraceElement} {steps : List TraceElement}
    (htrace : f.trace.reverse = root :: steps) (hroot : root.position = ⟨"", none⟩) :
    f.segments = (f.positions.filter (·.isShown)).map (·.text) := by
  have hfilter : ∀ es : List TraceElement, es.filterMap TraceElement.segment =
      ((es.map TraceElement.position).filter (·.isShown)).map (·.text) := by
    intro es
    induction es with
    | nil => rfl
    | cons e es ih =>
      rw [List.map_cons, List.filterMap_cons, TraceElement.segment_eq, ih, List.filter_cons]
      split <;> simp_all
  rw [segments, positions, htrace, List.filterMap_cons, TraceElement.segment_eq, hroot, hfilter]
  rfl

/-! ## Names of positions -/

namespace Notation

theorem Expressible.of_array {r : Registry} {e : Validator} (h : Expressible r (.array e)) :
    Expressible r e := by
  cases h with
  | elements hget => exact .element hget
  | objects hhook hnames htrees => exact .object hhook hnames htrees

theorem IsExpressible.toValidator {r : Registry} {o : ObjectValidator} (h : IsExpressible r o) :
    Expressible r o.toValidator := by
  rw [ObjectValidator.toValidator, h.plain]
  exact .object .plain h.names h.fields

end Notation

/-- Below a validator that a schema can express, positions have names of fields. -/
theorem Locates.isFieldName {r : Registry} {c : Context} {v : Validator} {node : Json}
    {es : List TraceElement} (h : Locates c v node es) (hv : Notation.Expressible r v) :
    ∀ e ∈ es.tail, IsFieldName e.field := by
  induction h with
  | fault _ _ => exact fun _ he => absurd he List.not_mem_nil
  | missing _ _ hfield _ =>
    cases hv with
    | object _ hnames _ =>
      intro e he
      obtain rfl := List.mem_singleton.mp he
      exact hnames.valid _ hfield
  | @deeper _ fields _ _ _ next rest w _ _ hrequires _ _ ih =>
    cases hv with
    | object _ hnames htrees =>
      have hnext : IsFieldName next.position.name ∧ Notation.Expressible r w := by
        generalize next.position = pos at hrequires
        cases hrequires with
        | member hfield => exact ⟨hnames.valid _ hfield, htrees _ hfield⟩
        | item i hfield => exact ⟨hnames.valid _ hfield, (htrees _ hfield).of_array⟩
      intro e he
      rcases List.mem_cons.mp he with rfl | he
      · exact hnext.1
      · exact ih hnext.2 e he

/-- The positions of a failure of a schema, and what its path shows of them. -/
theorem Notation.path_of_readBytes {r : Registry} {bytes : Bytes} {o : ObjectValidator}
    (hread : readBytes r bytes = .ok o) {d : Json} {f : Failure}
    (h : Schema.validate ⟨o⟩ d = .error f) :
    (∀ p ∈ f.positions, IsFieldName p.name) ∧
      f.path = ".".intercalate ((f.positions.filter (·.isShown)).map (·.text)) := by
  obtain ⟨root, steps, c, htrace, hroot, -, hlocates⟩ :=
    Schema.locates_of_validate (flatArrays_of_readBytes hread) h
  have hexpressible := (isExpressible_of_outlines (readAll_eq_ok_iff.mp hread)).toValidator
  refine ⟨fun p hp => ?_, by rw [Failure.path, Failure.segments_eq htrace hroot]⟩
  rw [Failure.positions, htrace] at hp
  obtain ⟨e, he, rfl⟩ := List.mem_map.mp hp
  exact hlocates.isFieldName hexpressible e he

/-! ## Reading a path back -/

theorem IsFieldName.not_mem {name : String} (h : IsFieldName name) {c : Char}
    (hc : Line.isNameChar c = false) : c ∉ name.toList :=
  fun hmem => h.ne_of_mem hmem hc rfl

theorem TraceElement.toList_indexText (i : Nat) :
    (indexText i).toList = '[' :: (Nat.toDigits 10 i ++ [']']) := by
  simp [indexText]

theorem toDigits_injective {i j : Nat} (h : Nat.toDigits 10 i = Nat.toDigits 10 j) : i = j := by
  rw [← Nat.ofDigitChars_ten_toDigits (n := i), h, Nat.ofDigitChars_ten_toDigits]

namespace Position

theorem toList_text (p : Position) :
    p.text.toList = p.name.toList ++ match p.index with
      | none => []
      | some i => '[' :: (Nat.toDigits 10 i ++ [']']) := by
  obtain ⟨name, _ | i⟩ := p
  · simp [text]
  · simp [text, TraceElement.toList_indexText]

/-- A step of a path holds no dot. -/
theorem dot_not_mem_text {p : Position} (hname : IsFieldName p.name) : '.' ∉ p.text.toList := by
  have hdot : '.' ∉ p.name.toList := hname.not_mem (by decide)
  obtain ⟨name, _ | i⟩ := p
  · simpa [toList_text] using hdot
  · have hdigits : '.' ∉ Nat.toDigits 10 i := fun hmem =>
      absurd (Nat.isDigit_of_mem_toDigits (by decide) (by decide) hmem) (by decide)
    simpa [toList_text, hdigits] using hdot

/-- A step that is shown is not empty. -/
theorem text_ne_nil {p : Position} (h : p.isShown = true) : p.text.toList ≠ [] := by
  obtain ⟨name, _ | i⟩ := p
  · simpa [toList_text, isShown] using h
  · simp [toList_text]

/-- The bracket ends the name, and the digits give back the index. -/
theorem text_injective {p q : Position} (hp : IsFieldName p.name) (hq : IsFieldName q.name)
    (h : p.text = q.text) : p = q := by
  have hlists := congrArg String.toList h
  rw [toList_text, toList_text] at hlists
  obtain ⟨name, index⟩ := p
  obtain ⟨name', index'⟩ := q
  have hbracket : ∀ c ∈ name.toList, decide (c ≠ '[') = true := fun c hc =>
    decide_eq_true (hp.ne_of_mem hc (by decide))
  have hbracket' : ∀ c ∈ name'.toList, decide (c ≠ '[') = true := fun c hc =>
    decide_eq_true (hq.ne_of_mem hc (by decide))
  have hname := congrArg (List.takeWhile (· ≠ '[')) hlists
  have hindex := congrArg (List.dropWhile (· ≠ '[')) hlists
  simp only [List.takeWhile_append_of_pos hbracket, List.takeWhile_append_of_pos hbracket'] at hname
  simp only [List.dropWhile_append_of_pos hbracket,
    List.dropWhile_append_of_pos hbracket'] at hindex
  cases index with
  | none =>
    cases index' with
    | none =>
      have hnames : name = name' := String.toList_injective (by simpa using hname)
      rw [hnames]
    | some j => simp at hindex
  | some i =>
    cases index' with
    | none => simp at hindex
    | some j =>
      have hnames : name = name' := String.toList_injective (by simpa using hname)
      have hdigits : Nat.toDigits 10 i = Nat.toDigits 10 j := by simpa using hindex
      rw [hnames, toDigits_injective hdigits]

theorem map_text_injective {ps qs : List Position} (hps : ∀ p ∈ ps, IsFieldName p.name)
    (hqs : ∀ q ∈ qs, IsFieldName q.name) (h : ps.map text = qs.map text) : ps = qs := by
  induction ps generalizing qs with
  | nil => exact (List.map_eq_nil_iff.mp h.symm).symm
  | cons p ps ih =>
    obtain ⟨q, qs, rfl, htext, hrest⟩ := List.map_eq_cons_iff.mp h.symm
    rw [List.forall_mem_cons] at hps hqs
    rw [text_injective hps.1 hqs.1 htext.symm, ih hps.2 hqs.2 hrest.symm]

end Position

/-- Texts that hold no dot and are not empty are given back by joining them with
dots. -/
theorem intercalate_dot_injective {xs ys : List String}
    (hxs : ∀ s ∈ xs, s.toList ≠ [] ∧ '.' ∉ s.toList)
    (hys : ∀ s ∈ ys, s.toList ≠ [] ∧ '.' ∉ s.toList)
    (h : ".".intercalate xs = ".".intercalate ys) : xs = ys := by
  have hsplit : ∀ zs : List String, (∀ s ∈ zs, s.toList ≠ [] ∧ '.' ∉ s.toList) →
      (List.splitOn '.' (".".intercalate zs).toList).filter (· ≠ []) = zs.map String.toList := by
    intro zs hzs
    have hdots : ∀ l ∈ zs.map String.toList, '.' ∉ l := by
      intro l hl
      obtain ⟨s, hs, rfl⟩ := List.mem_map.mp hl
      exact (hzs s hs).2
    have hnonempty : (zs.map String.toList).filter (· ≠ []) = zs.map String.toList := by
      rw [List.filter_eq_self]
      intro l hl
      obtain ⟨s, hs, rfl⟩ := List.mem_map.mp hl
      exact decide_eq_true (hzs s hs).1
    rw [String.toList_intercalate]
    by_cases hempty : zs = []
    · subst hempty
      rfl
    · rw [show ".".toList = ['.'] from rfl,
        List.splitOn_intercalate '.' hdots (by simpa using hempty), hnonempty]
  have hlists : xs.map String.toList = ys.map String.toList := by
    rw [← hsplit xs hxs, h, hsplit ys hys]
  exact List.map_injective_iff.mpr (fun _ _ => String.toList_injective) hlists

/-- **A path tells the positions that it shows.**  Two failures of a schema that is
read from a text have the same path exactly if they agree in the positions that
have a name or an index.  So a path tells two places apart as long as no member
without a name lies on the way to either. -/
theorem path_eq_iff_shown_positions {r : Registry} {bytes : Bytes} {o : ObjectValidator}
    (hread : Notation.readBytes r bytes = .ok o) {d d' : Json} {f f' : Failure}
    (h : Schema.validate ⟨o⟩ d = .error f) (h' : Schema.validate ⟨o⟩ d' = .error f') :
    (f.path = f'.path ↔ f.positions.filter (·.isShown) = f'.positions.filter (·.isShown)) ∧
      ((∀ p ∈ f.positions ++ f'.positions, p.isShown = true) →
        (f.path = f'.path ↔ f.positions = f'.positions)) := by
  obtain ⟨hnames, hpath⟩ := Notation.path_of_readBytes hread h
  obtain ⟨hnames', hpath'⟩ := Notation.path_of_readBytes hread h'
  have htexts : ∀ ps : List Position, (∀ p ∈ ps, IsFieldName p.name) →
      ∀ s ∈ (ps.filter (·.isShown)).map (·.text), s.toList ≠ [] ∧ '.' ∉ s.toList := by
    intro ps hps s hs
    obtain ⟨p, hp, rfl⟩ := List.mem_map.mp hs
    obtain ⟨hmem, hshown⟩ := List.mem_filter.mp hp
    exact ⟨Position.text_ne_nil hshown, Position.dot_not_mem_text (hps p hmem)⟩
  have hiff : f.path = f'.path ↔
      f.positions.filter (·.isShown) = f'.positions.filter (·.isShown) := by
    rw [hpath, hpath']
    constructor
    · intro heq
      have hmaps := intercalate_dot_injective (htexts _ hnames) (htexts _ hnames') heq
      exact Position.map_text_injective (fun p hp => hnames p (List.mem_filter.mp hp).1)
        (fun p hp => hnames' p (List.mem_filter.mp hp).1) hmaps
    · intro heq
      rw [heq]
  refine ⟨hiff, fun hshown => ?_⟩
  have hall : f.positions.filter (·.isShown) = f.positions :=
    List.filter_eq_self.mpr fun p hp => hshown p (List.mem_append_left _ hp)
  have hall' : f'.positions.filter (·.isShown) = f'.positions :=
    List.filter_eq_self.mpr fun p hp => hshown p (List.mem_append_right _ hp)
  rw [hiff, hall, hall']

/-- Two sizes of the wrong kind, one of them in the second item. -/
theorem paths_differ_for_items :
    let bytes := Bytes.ofText "items:Object[]\n\tsize:Int\n"
    let o : ObjectValidator :=
      { fields := [("items", .array (.object none [("size", .leaf .int)]))] }
    let d : Json := .object [("items", .array [.object [("size", .null)]])]
    let d' : Json :=
      .object [("items", .array [.object [("size", .nat 1)], .object [("size", .null)]])]
    let steps (i : Nat) : List TraceElement := [⟨"Int", "size", none, .rejected, some "null"⟩,
      ⟨"Object", "items", some i, .nested, some "object"⟩,
      ⟨"Object", "", none, .nested, some "object"⟩]
    Notation.readBytes Registry.empty bytes = .ok o ∧
      Schema.validate ⟨o⟩ d = .error ⟨steps 0⟩ ∧ Schema.validate ⟨o⟩ d' = .error ⟨steps 1⟩ ∧
      (∀ p ∈ Failure.positions ⟨steps 0⟩ ++ Failure.positions ⟨steps 1⟩, p.isShown = true) ∧
      Failure.path ⟨steps 0⟩ ≠ Failure.path ⟨steps 1⟩ := by
  intro bytes o d d' steps
  have hread : Notation.readBytes Registry.empty bytes = .ok o := by rfl
  have h : Schema.validate ⟨o⟩ d = .error ⟨steps 0⟩ := by rfl
  have h' : Schema.validate ⟨o⟩ d' = .error ⟨steps 1⟩ := by rfl
  have hshown : ∀ p ∈ Failure.positions ⟨steps 0⟩ ++ Failure.positions ⟨steps 1⟩,
      p.isShown = true := by decide
  refine ⟨hread, h, h', hshown, fun hpath => ?_⟩
  have hpositions := ((path_eq_iff_shown_positions hread h h').2 hshown).mp hpath
  exact absurd hpositions (by decide)

/-- **A member without a name is left out of a path.**  Where a schema declares a
field `a` below a field without a name and another `a` beside it, failures at the
two places have one path. -/
theorem path_shared_past_unnamed_member :
    ∃ bytes o d d' f f', Notation.readBytes Registry.empty bytes = .ok o ∧
      Schema.validate ⟨o⟩ d = .error f ∧ Schema.validate ⟨o⟩ d' = .error f' ∧
      f.path = f'.path ∧ f.positions ≠ f'.positions :=
  ⟨Bytes.ofText "x:Object\n\t:Object\n\t\ta:Int\n\ta:Int\n",
    { fields := [("x", .object none [("", .object none [("a", .leaf .int)]), ("a", .leaf .int)])] },
    .object [("x", .object [("", .object [("a", .string "y")]), ("a", .nat 1)])],
    .object [("x", .object [("", .object [("a", .nat 1)]), ("a", .string "y")])],
    ⟨[⟨"Int", "a", none, .rejected, some "string"⟩, ⟨"Object", "", none, .nested, some "object"⟩,
      ⟨"Object", "x", none, .nested, some "object"⟩, ⟨"Object", "", none, .nested, some "object"⟩]⟩,
    ⟨[⟨"Int", "a", none, .rejected, some "string"⟩, ⟨"Object", "x", none, .nested, some "object"⟩,
      ⟨"Object", "", none, .nested, some "object"⟩]⟩,
    by rfl, by rfl, by rfl, by decide, by decide⟩

end DocSchema
