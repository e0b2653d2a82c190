import DocSchema.Proofs.Notation.Outline
import DocSchema.Proofs.Text.Lines
import Mathlib.Data.List.Chain

/-!
# The grammar of schema texts

Which texts are schemas is a condition on each line and on each pair of
neighbouring lines (`IsSchema`); the stack that `readLines` keeps does not occur
in it.  What connects the two is the height of the stack: after a line it is the
depth of that line, and one more if the line opens an object, so that "no deeper
than the stack is high" says the same as "may follow the line before"
(`HasRoom`).

A text that is no schema is refused with the fault of its first line that is at
fault after lines that are not (`Fault`).  On one line a missing form comes
before a wrong depth, and a wrong depth before a type name that means nothing.
-/
namespace DocSchema.Notation

/-! ## Conditions on lines -/

/-- **The lines of a file.**  Its bytes are divided at line feeds; a carriage
return before one is dropped; and each line is a text if its bytes are. -/
def HasLines (bytes : Bytes) (raw : List (Option (List Char))) : Prop :=
  ∃ pieces, Lines.IsCut 10 bytes pieces ∧
    raw = pieces.map fun piece => (Bytes.decode? (Lines.dropReturn 13 piece)).map String.toList

/-- The type names of objects and of arrays of objects, after which the next
line may be one deeper. -/
def OpensObject (r : Registry) (token : String) : Prop :=
  token = "Object" ∨ token = "Object[]" ∨
    ∃ name check, r.get? name = some (.object check) ∧ (token = name ∨ token = name ++ "[]")

/-- The type names that mean something: the built-in ones, patterns that
compile, and registered names with or without the mark of an array. -/
def IsKnown (r : Registry) (token : String) : Prop :=
  token ∈ ["String", "Boolean", "Int", "Object", "Object[]"] ∨
    (∃ text, token = "Regex:" ++ text ∧ (Pattern.compile? text).isSome) ∨
    ∃ name, r.contains name ∧ (token = name ∨ token = name ++ "[]")

/-- A line may follow the line before it, or stand first. -/
def MayFollow (r : Registry) : Option Line → Line → Prop
  | none, l => l.depth = 0
  | some before, l =>
    l.depth ≤ before.depth ∨ (OpensObject r before.token ∧ l.depth ≤ before.depth + 1)

/-- A line of a file is a text that spells a declaration. -/
def SpelledBy (raw : Option (List Char)) (l : Line) : Prop :=
  ∃ text, raw = some text ∧ l.Spells text

/-- **The grammar.**  The lines of a file are the declarations of a schema. -/
structure IsSchema (r : Registry) (raw : List (Option (List Char))) (ls : List Line) : Prop where
  spelled : List.Forall₂ SpelledBy raw ls
  first : ∀ l, ls.head? = some l → MayFollow r none l
  nested : ls.IsChain fun before l => MayFollow r (some before) l
  known : ∀ l ∈ ls, IsKnown r l.token

/-- **What is wrong with a line** of a number, after the line before it. -/
inductive Fault (r : Registry) (number : Nat) (before : Option Line) :
    Option (List Char) → SchemaError → Prop where
  | undecodable : Fault r number before none .undecodable
  | malformed {text : List Char} : ¬ Line.Declares text →
      Fault r number before (some text) (.malformed number (String.ofList text))
  | indentation {text : List Char} {l : Line} : l.Spells text → ¬ MayFollow r before l →
      Fault r number before (some text) (.indentation number)
  | invalidPattern {text : List Char} {l : Line} {pattern : String} : l.Spells text →
      MayFollow r before l → l.token = "Regex:" ++ pattern → Pattern.compile? pattern = none →
      Fault r number before (some text) (.invalidPattern number pattern)
  | unknownType {text : List Char} {l : Line} : l.Spells text → MayFollow r before l →
      (∀ pattern, l.token ≠ "Regex:" ++ pattern) → ¬ IsKnown r l.token →
      Fault r number before (some text) (.unknownType number l.token)

/-! ## Type names -/

theorem isKnown_iff {r : Registry} {token : String} :
    IsKnown r token ↔ ∃ d, Denotes r token d := by
  constructor
  · rintro (hbuiltin | ⟨text, rfl, hp⟩ | ⟨name, hname, htoken⟩)
    · simp only [List.mem_cons, List.not_mem_nil, or_false] at hbuiltin
      obtain rfl | rfl | rfl | rfl | rfl := hbuiltin
      · exact ⟨_, .string⟩
      · exact ⟨_, .boolean⟩
      · exact ⟨_, .int⟩
      · exact ⟨_, .object⟩
      · exact ⟨_, .objects⟩
    · obtain ⟨p, hp⟩ := Option.isSome_iff_exists.mp hp
      exact ⟨_, .pattern hp⟩
    · obtain ⟨kind, hkind⟩ := Option.isSome_iff_exists.mp hname
      cases kind with
      | element check =>
        obtain rfl | rfl := htoken
        · exact ⟨_, .element hkind⟩
        · exact ⟨_, .elements hkind⟩
      | object check =>
        obtain rfl | rfl := htoken
        · exact ⟨_, .kind hkind⟩
        · exact ⟨_, .kinds hkind⟩
  · have hcontains : ∀ {name kind}, r.get? name = some kind → r.contains name = true := by
      intro name kind hkind
      rw [Registry.contains, hkind]
      rfl
    rintro ⟨d, hd⟩
    cases hd with
    | string | boolean | int | object | objects => exact .inl (by decide)
    | pattern hp => exact .inr (.inl ⟨_, rfl, by rw [hp]; rfl⟩)
    | element hkind | kind hkind => exact .inr (.inr ⟨_, hcontains hkind, .inl rfl⟩)
    | elements hkind | kinds hkind => exact .inr (.inr ⟨_, hcontains hkind, .inr rfl⟩)

theorem opensObject_iff {r : Registry} {token : String} :
    OpensObject r token ↔ ∃ o isArray, Denotes r token (.opens o isArray) := by
  constructor
  · rintro (rfl | rfl | ⟨name, check, hkind, rfl | rfl⟩)
    · exact ⟨_, _, .object⟩
    · exact ⟨_, _, .objects⟩
    · exact ⟨_, _, .kind hkind⟩
    · exact ⟨_, _, .kinds hkind⟩
  · rintro ⟨o, isArray, hd⟩
    cases hd with
    | object => exact .inl rfl
    | objects => exact .inr (.inl rfl)
    | kind hkind => exact .inr (.inr ⟨_, _, hkind, .inl rfl⟩)
    | kinds hkind => exact .inr (.inr ⟨_, _, hkind, .inr rfl⟩)

/-! ## Room on the stack -/

/-- The depth that the line before allows is the height of the stack. -/
def HasRoom (r : Registry) (before : Option Line) (room : Nat) : Prop :=
  ∀ l, MayFollow r before l ↔ l.depth ≤ room

/-- An entry is a line together with the meaning of its type name. -/
structure Entry.Means (r : Registry) (l : Line) (e : Entry) : Prop where
  depth_eq : e.depth = l.depth
  name_eq : e.name = l.name
  denotes : Denotes r l.token e.declared

theorem hasRoom_none (r : Registry) : HasRoom r none 0 := fun _ => Nat.le_zero.symm

theorem hasRoom_some {r : Registry} {l : Line} {e : Entry} (h : Entry.Means r l e) :
    HasRoom r (some l) (e.depth + e.declared.room) := by
  intro next
  rw [MayFollow, h.depth_eq]
  cases hdeclared : e.declared with
  | leaf v =>
    have hleaf : ¬ OpensObject r l.token := by
      rw [opensObject_iff]
      rintro ⟨o, isArray, hopens⟩
      have heq := hopens.unique h.denotes
      rw [hdeclared] at heq
      cases heq
    simp [hleaf, Declared.room]
  | opens o isArray =>
    have hopens : OpensObject r l.token := opensObject_iff.mpr ⟨o, isArray, hdeclared ▸ h.denotes⟩
    simp only [hopens, true_and, Declared.room]
    omega

/-- Lines climb exactly if each may follow the one before it. -/
theorem climbs_iff {r : Registry} {before : Option Line} {room : Nat} {ls : List Line}
    {es : List Entry} (hroom : HasRoom r before room)
    (hmeans : List.Forall₂ (Entry.Means r) ls es) :
    Climbs room es ↔ (∀ l, ls.head? = some l → MayFollow r before l) ∧
      ls.IsChain fun before l => MayFollow r (some before) l := by
  induction hmeans generalizing before room with
  | nil => simp [Climbs]
  | @cons l e ls es hmean _ ih =>
    rw [Climbs, ih (hasRoom_some hmean), List.isChain_cons, hmean.depth_eq, ← hroom l]
    simp

/-- After any lines that climb, the stack is as high as the last of them allows. -/
theorem hasRoom_addAll {r : Registry} {before : Option Line} {b : Building} {ls : List Line}
    {es : List Entry} (hroom : HasRoom r before b.frames.length)
    (hmeans : List.Forall₂ (Entry.Means r) ls es) (hclimbs : Climbs b.frames.length es) :
    HasRoom r (ls.getLast?.or before) (b.addAll es).frames.length := by
  induction hmeans generalizing before b with
  | nil => exact hroom
  | @cons l e ls es hmean _ ih =>
    have hheight := Building.length_frames_add hclimbs.1
    have hafter := ih (b := b.add e) (by rw [hheight]; exact hasRoom_some hmean)
      (by rw [hheight]; exact hclimbs.2)
    -- Of the lines read so far, only the last one bounds the next.
    have hlast : (l :: ls).getLast?.or before = ls.getLast?.or (some l) := by
      rw [List.getLast?_cons]
      cases ls.getLast? <;> rfl
    rw [hlast]
    exact hafter

/-! ## Reading by the grammar -/

theorem statedBy_iff {r : Registry} {raw : Option (List Char)} {e : Entry} :
    Entry.StatedBy r raw e ↔ ∃ l, SpelledBy raw l ∧ Entry.Means r l e := by
  constructor
  · rintro ⟨text, token, htext, hspells, hdenotes⟩
    exact ⟨_, ⟨text, htext, hspells⟩, ⟨rfl, rfl, hdenotes⟩⟩
  · rintro ⟨l, ⟨text, htext, hspells⟩, ⟨hdepth, hname, hdenotes⟩⟩
    exact ⟨text, l.token, htext, by rwa [hdepth, hname], hdenotes⟩

theorem forall₂_statedBy_iff {r : Registry} {raw : List (Option (List Char))} {es : List Entry} :
    List.Forall₂ (Entry.StatedBy r) raw es ↔
      ∃ ls, List.Forall₂ SpelledBy raw ls ∧ List.Forall₂ (Entry.Means r) ls es := by
  constructor
  · intro h
    induction h with
    | nil => exact ⟨[], .nil, .nil⟩
    | cons hstated _ ih =>
      obtain ⟨l, hspelled, hmean⟩ := statedBy_iff.mp hstated
      obtain ⟨ls, hls, hmeans⟩ := ih
      exact ⟨l :: ls, .cons hspelled hls, .cons hmean hmeans⟩
  · rintro ⟨ls, hls, hmeans⟩
    induction hls generalizing es with
    | nil => cases hmeans; exact .nil
    | cons hspelled _ ih =>
      cases hmeans with
      | cons hmean hmeans => exact .cons (statedBy_iff.mpr ⟨_, hspelled, hmean⟩) (ih hmeans)

theorem forall_isKnown_iff {r : Registry} {ls : List Line} :
    (∀ l ∈ ls, IsKnown r l.token) ↔ ∃ es, List.Forall₂ (Entry.Means r) ls es := by
  constructor
  · intro h
    induction ls with
    | nil => exact ⟨[], .nil⟩
    | cons l ls ih =>
      obtain ⟨d, hd⟩ := isKnown_iff.mp (h l List.mem_cons_self)
      obtain ⟨es, hes⟩ := ih fun l hl => h l (List.mem_cons_of_mem _ hl)
      exact ⟨⟨l.depth, l.name, d⟩ :: es, .cons ⟨rfl, rfl, hd⟩ hes⟩
  · rintro ⟨es, hes⟩
    induction hes with
    | nil => exact fun _ h => absurd h List.not_mem_nil
    | cons hmean _ ih =>
      intro l hl
      rcases List.mem_cons.mp hl with rfl | hl
      · exact isKnown_iff.mpr ⟨_, hmean.denotes⟩
      · exact ih l hl

/-- The grammar in terms of entries. -/
theorem isSchema_iff {r : Registry} {raw : List (Option (List Char))} {ls : List Line} :
    IsSchema r raw ls ↔ List.Forall₂ SpelledBy raw ls ∧
      ∃ es, List.Forall₂ (Entry.Means r) ls es ∧ Climbs 0 es := by
  constructor
  · rintro ⟨hspelled, hfirst, hnested, hknown⟩
    obtain ⟨es, hes⟩ := forall_isKnown_iff.mp hknown
    exact ⟨hspelled, es, hes, (climbs_iff (hasRoom_none r) hes).mpr ⟨hfirst, hnested⟩⟩
  · rintro ⟨hspelled, es, hes, hclimbs⟩
    obtain ⟨hfirst, hnested⟩ := (climbs_iff (hasRoom_none r) hes).mp hclimbs
    exact ⟨hspelled, hfirst, hnested, forall_isKnown_iff.mpr ⟨es, hes⟩⟩

/-- The faults of a line that spells a declaration. -/
theorem fault_iff_of_spells {r : Registry} {number : Nat} {before : Option Line} {text : List Char}
    {l : Line} {e : SchemaError} (h : l.Spells text) :
    Fault r number before (some text) e ↔
      (¬ MayFollow r before l ∧ e = .indentation number) ∨
      (MayFollow r before l ∧ ∃ fault, resolve r l.token = .error fault ∧
        e = fault.at number l.token) := by
  constructor
  · intro hfault
    cases hfault with
    | malformed hnot => exact absurd (Line.exists_spells_iff.mp ⟨l, h⟩) hnot
    | indentation hspells hnot =>
      obtain rfl := h.unique hspells
      exact .inl ⟨hnot, rfl⟩
    | invalidPattern hspells hfollow htoken hp =>
      obtain rfl := h.unique hspells
      exact .inr ⟨hfollow, _, resolve_eq_error_iff.mpr (.inl ⟨_, htoken, hp, rfl⟩), rfl⟩
    | unknownType hspells hfollow hpattern hnot =>
      obtain rfl := h.unique hspells
      have hnone : ∀ d, ¬ Denotes r l.token d := fun d hd => hnot (isKnown_iff.mpr ⟨d, hd⟩)
      exact .inr ⟨hfollow, _, resolve_eq_error_iff.mpr (.inr ⟨hpattern, hnone, rfl⟩), rfl⟩
  · rintro (⟨hnot, rfl⟩ | ⟨hfollow, fault, hresolve, rfl⟩)
    · exact .indentation h hnot
    · obtain ⟨pattern, htoken, hp, rfl⟩ | ⟨hpattern, hnone, rfl⟩ := resolve_eq_error_iff.mp hresolve
      · exact .invalidPattern h hfollow htoken hp
      · refine .unknownType h hfollow hpattern fun hknown => ?_
        obtain ⟨d, hd⟩ := isKnown_iff.mp hknown
        exact hnone d hd

/-- **A line is refused for its fault.** -/
theorem readLine_eq_error_iff {r : Registry} {number : Nat} {before : Option Line} {b : Building}
    {text : List Char} {e : SchemaError} (hroom : HasRoom r before b.frames.length) :
    readLine r number b text = .error e ↔ Fault r number before (some text) e := by
  cases hline : Line.read? text with
  | none =>
    have hnone : ∀ l : Line, ¬ l.Spells text := by
      intro l hspells
      rw [Line.read?_eq_some_iff.mpr hspells] at hline
      cases hline
    rw [readLine, hline]
    constructor
    · intro h
      obtain rfl := Except.error.inj h
      refine .malformed fun hdeclares => ?_
      obtain ⟨l, hspells⟩ := Line.exists_spells_iff.mpr hdeclares
      exact hnone l hspells
    · intro h
      cases h with
      | malformed _ => rfl
      | indentation hspells | invalidPattern hspells | unknownType hspells =>
        exact absurd hspells (hnone _)
  | some l =>
    have hspells := Line.read?_eq_some_iff.mp hline
    rw [readLine_of_spells hspells, fault_iff_of_spells hspells]
    by_cases hfollow : MayFollow r before l
    · rw [if_neg (Nat.not_lt.mpr ((hroom l).mp hfollow))]
      cases resolve r l.token <;> simp [hfollow, eq_comm]
    · rw [if_pos (Nat.lt_of_not_le (mt (hroom l).mpr hfollow))]
      simp [hfollow, eq_comm]

/-- Lines are read one after the other. -/
theorem readLines_append (r : Registry) (number : Nat) (b : Building)
    (front rest : List (Option (List Char))) :
    readLines r number b (front ++ rest) = match readLines r number b front with
      | .error e => .error e
      | .ok b' => readLines r (number + front.length) b' rest := by
  induction front generalizing number b with
  | nil => rfl
  | cons line front ih =>
    cases line with
    | none => rfl
    | some text =>
      rw [List.cons_append, readLines, readLines]
      cases readLine r number b text with
      | error e => rfl
      | ok b₁ =>
        simp only
        rw [ih, List.length_cons, Nat.add_comm front.length, ← Nat.add_assoc]

/-- **The first fault decides.**  Reading fails at one line, after lines that are
read without a fault. -/
theorem readLines_eq_error_iff {r : Registry} {number : Nat} {b : Building}
    {raw : List (Option (List Char))} {e : SchemaError} :
    readLines r number b raw = .error e ↔
      ∃ front line rest b', raw = front ++ line :: rest ∧ readLines r number b front = .ok b' ∧
        readLines r (number + front.length) b' [line] = .error e := by
  constructor
  · intro h
    induction raw generalizing number b with
    | nil => cases h
    | cons line raw ih =>
      cases hline : readLines r number b [line] with
      | error e' =>
        rw [← List.singleton_append, readLines_append, hline] at h
        obtain rfl := Except.error.inj h
        exact ⟨[], line, raw, b, rfl, rfl, hline⟩
      | ok b₁ =>
        rw [← List.singleton_append, readLines_append, hline] at h
        obtain ⟨front, line', rest, b', rfl, hfront, hfault⟩ := ih h
        refine ⟨line :: front, line', rest, b', rfl, ?_, ?_⟩
        · rw [← List.singleton_append, readLines_append, hline]
          exact hfront
        · rwa [List.length_cons, Nat.add_comm front.length, ← Nat.add_assoc]
  · rintro ⟨front, line, rest, b', rfl, hfront, hfault⟩
    rw [readLines_append, hfront, ← List.singleton_append]
    simp only
    rw [readLines_append, hfault]

theorem readLines_singleton_eq_error_iff {r : Registry} {number : Nat} {before : Option Line}
    {b : Building} {line : Option (List Char)} {e : SchemaError}
    (hroom : HasRoom r before b.frames.length) :
    readLines r number b [line] = .error e ↔ Fault r number before line e := by
  cases line with
  | none =>
    rw [readLines]
    constructor
    · intro h
      obtain rfl := Except.error.inj h
      exact .undecodable
    · intro h
      cases h
      rfl
  | some text =>
    rw [← readLine_eq_error_iff hroom, readLines]
    cases readLine r number b text with
    | error e' => rfl
    | ok b' => simp [readLines]

/-- Reading lines of a schema, up to the height of the stack that they leave. -/
theorem readLines_eq_ok_iff_isSchema {r : Registry} (number : Nat)
    {raw : List (Option (List Char))} :
    (∃ b, readLines r number {} raw = .ok b) ↔ ∃ ls, IsSchema r raw ls := by
  constructor
  · rintro ⟨b, h⟩
    obtain ⟨es, hes, hclimbs, -⟩ := readLines_eq_ok_iff.mp h
    obtain ⟨ls, hls, hmeans⟩ := forall₂_statedBy_iff.mp hes
    exact ⟨ls, isSchema_iff.mpr ⟨hls, es, hmeans, hclimbs⟩⟩
  · rintro ⟨ls, h⟩
    obtain ⟨hls, es, hmeans, hclimbs⟩ := isSchema_iff.mp h
    exact ⟨_, readLines_eq_ok_iff.mpr
      ⟨es, forall₂_statedBy_iff.mpr ⟨ls, hls, hmeans⟩, hclimbs, rfl⟩⟩

/-- After the lines of a schema, the stack is as high as the last of them allows. -/
theorem hasRoom_of_isSchema {r : Registry} {number : Nat} {raw : List (Option (List Char))}
    {ls : List Line} {b : Building} (h : IsSchema r raw ls)
    (hread : readLines r number {} raw = .ok b) : HasRoom r ls.getLast? b.frames.length := by
  obtain ⟨hls, es, hmeans, hclimbs⟩ := isSchema_iff.mp h
  have hread' : readLines r number {} raw = .ok (Building.addAll {} es) :=
    readLines_eq_ok_iff.mpr ⟨es, forall₂_statedBy_iff.mpr ⟨ls, hls, hmeans⟩, hclimbs, rfl⟩
  rw [hread] at hread'
  obtain rfl := Except.ok.inj hread'
  have hroom := hasRoom_addAll (b := {}) (hasRoom_none r) hmeans hclimbs
  rwa [Option.or_none] at hroom

/-- Reading all lines fails where reading them one by one does. -/
theorem readAll_eq_error_iff {r : Registry} {raw : List (Option (List Char))} {e : SchemaError} :
    readAll r raw = .error e ↔ readLines r 1 {} raw = .error e := by
  rw [readAll]
  cases readLines r 1 {} raw <;> simp [Except.map]

/-- A file has one list of lines. -/
theorem hasLines_iff {bytes : Bytes} {raw : List (Option (List Char))} :
    HasLines bytes raw ↔ linesOfBytes bytes = raw := by
  rw [linesOfBytes, Lines.split, List.map_map]
  constructor
  · rintro ⟨pieces, hcut, rfl⟩
    rw [Lines.isCut_iff.mp hcut]
    rfl
  · rintro rfl
    exact ⟨_, Lines.isCut_cut 10 bytes, rfl⟩

/-- **Reading follows the grammar.**  The bytes of a file are read as a schema
exactly if its lines are those of one; otherwise the error is what is wrong with
the first line that is at fault, under the number of that line. -/
theorem reading_follows_grammar (r : Registry) (bytes : Bytes) :
    ((∃ o, readBytes r bytes = .ok o) ↔ ∃ raw ls, HasLines bytes raw ∧ IsSchema r raw ls) ∧
      ∀ e, readBytes r bytes = .error e ↔
        ∃ front line rest ls, HasLines bytes (front ++ line :: rest) ∧ IsSchema r front ls ∧
          Fault r (front.length + 1) ls.getLast? line e := by
  unfold readBytes readAll
  simp only [hasLines_iff]
  generalize linesOfBytes bytes = raw
  constructor
  · simp only [exists_and_left, exists_eq_left', ← readLines_eq_ok_iff_isSchema 1]
    cases readLines r 1 {} raw <;> simp [Except.map]
  · intro e
    have hmap : (readLines r 1 {} raw).map (fun b => (b.closeTo 0).root) = .error e ↔
        readLines r 1 {} raw = .error e := by
      cases readLines r 1 {} raw <;> simp [Except.map]
    rw [hmap, readLines_eq_error_iff]
    constructor
    · rintro ⟨front, line, rest, b, rfl, hfront, hfault⟩
      obtain ⟨ls, hls⟩ := (readLines_eq_ok_iff_isSchema 1).mp ⟨b, hfront⟩
      refine ⟨front, line, rest, ls, rfl, hls, ?_⟩
      rw [Nat.add_comm]
      exact (readLines_singleton_eq_error_iff (hasRoom_of_isSchema hls hfront)).mp hfault
    · rintro ⟨front, line, rest, ls, rfl, hls, hfault⟩
      obtain ⟨b, hfront⟩ := (readLines_eq_ok_iff_isSchema 1).mpr ⟨ls, hls⟩
      refine ⟨front, line, rest, b, rfl, hfront, ?_⟩
      rw [Nat.add_comm] at hfault
      exact (readLines_singleton_eq_error_iff (hasRoom_of_isSchema hls hfront)).mpr hfault

end DocSchema.Notation
