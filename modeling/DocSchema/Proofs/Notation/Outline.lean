import DocSchema.Proofs.Notation.Token
import Mathlib.Data.List.Forall2
import Mathlib.Logic.Function.Iterate

/-!
# The outline of a schema text

`readAll` keeps a stack of open objects: a line closes what is deeper than
itself, an opened object leaves a placeholder among the fields of its parent,
and the finished object takes that place when it is closed.  The same tree has a
reading without a stack.  The lines at one depth are the fields of one object, in
order; the lines of an object among them are those that follow it directly and
are deeper (`declaredAt`).

The two are related through what is open.  If as many objects are open as the
depth of the next line, then reading lines that are at least that deep, and
closing down to where one started, sets exactly the fields that those lines
declare at that depth (`closeTo_addAll`).  The proof is by induction on the
number of lines: the body of a line is read with its object open, the lines after
the body with that object closed again, and closing puts the finished object
where the placeholder was.
-/
namespace DocSchema

/-- Sets fields one after the other: a repeated name keeps its place and gets
the later validator. -/
def ObjectValidator.setAll (o : ObjectValidator) (fields : List (String × Validator)) :
    ObjectValidator :=
  fields.foldl (fun o f => o.set f.1 f.2) o

namespace ObjectValidator

@[simp] theorem hook_setAll (o : ObjectValidator) (fields : List (String × Validator)) :
    (o.setAll fields).hook = o.hook := by
  induction fields generalizing o with
  | nil => rfl
  | cons f fields ih => exact ih (o.set f.1 f.2)

/-- The last field of a name is the one that stays. -/
theorem get?_setAll (o : ObjectValidator) (fields : List (String × Validator)) (name : String) :
    (o.setAll fields).get? name = (Keyed.get? fields.reverse name).or (o.get? name) := by
  induction fields generalizing o with
  | nil => rfl
  | cons f fields ih =>
    have hlast : (o.set f.1 f.2).get? name = (Keyed.get? [f] name).or (o.get? name) := by
      rw [get?_set, Keyed.get?_cons, Keyed.get?_nil]
      split <;> rfl
    calc ((o.set f.1 f.2).setAll fields).get? name
        = (Keyed.get? fields.reverse name).or ((o.set f.1 f.2).get? name) := ih _
      _ = (Keyed.get? (f :: fields).reverse name).or (o.get? name) := by
        rw [hlast, ← Option.or_assoc, ← Keyed.get?_append, List.reverse_cons]

/-- Names stand where they were first. -/
theorem keys_setAll {o : ObjectValidator} {names : List String} (h : o.keys = names.eraseDups)
    (fields : List (String × Validator)) :
    (o.setAll fields).keys = (names ++ Keyed.keys fields).eraseDups := by
  induction fields generalizing o names with
  | nil => rw [Keyed.keys_nil, List.append_nil]; exact h
  | cons f fields ih =>
    have hset : (o.set f.1 f.2).keys = (names ++ [f.1]).eraseDups := by
      rw [keys, set, Keyed.keys_set, ← keys, h, List.eraseDups_append]
      by_cases hknown : f.1 ∈ names
      · simp [hknown, List.removeAll]
      · simp [hknown, List.removeAll, List.eraseDups_cons]
    calc ((o.set f.1 f.2).setAll fields).keys
        = ((names ++ [f.1]) ++ Keyed.keys fields).eraseDups := ih hset
      _ = (names ++ Keyed.keys (f :: fields)).eraseDups := by
        rw [List.append_assoc, List.singleton_append, Keyed.keys_cons]

end ObjectValidator

namespace Notation

/-! ## Lines with their meanings, and the tree that they outline -/

/-- A line with the meaning of its type name. -/
structure Entry where
  depth : Nat
  name : String
  declared : Declared

/-- A line of a file states an entry: its bytes are a text, the text spells a
declaration, and the type name has that meaning. -/
def Entry.StatedBy (r : Registry) (raw : Option (List Char)) (e : Entry) : Prop :=
  ∃ text token, raw = some text ∧ Line.Spells ⟨e.depth, e.name, token⟩ text ∧
    Denotes r token e.declared

/-- How much deeper than itself the line after a line may be. -/
def Declared.room : Declared → Nat
  | .leaf _ => 0
  | .opens _ _ => 1

/-- The validator of a line, from the fields that the lines below it declare. -/
def Declared.validator : Declared → List (String × Validator) → Validator
  | .leaf v, _ => v
  | .opens o isArray, fields =>
    if isArray then .array (o.setAll fields).toValidator else (o.setAll fields).toValidator

/-- **The reading of lines without a stack.**  At a depth, each line of that
depth declares a field; the lines below it are those that follow it directly and
are deeper, read one level further in. -/
def declaredAt (depth : Nat) : List Entry → List (String × Validator)
  | [] => []
  | e :: rest =>
    if e.depth = depth then
      (e.name, e.declared.validator (declaredAt (depth + 1) (rest.takeWhile (depth < ·.depth)))) ::
        declaredAt depth rest
    else declaredAt depth rest
termination_by es => es.length
decreasing_by
  · exact Nat.lt_succ_of_le (List.takeWhile_sublist _).length_le
  · exact Nat.lt_succ_self _
  · exact Nat.lt_succ_self _

/-- The object that lines outline: those without tabs are its fields. -/
def outline (es : List Entry) : ObjectValidator := ObjectValidator.setAll {} (declaredAt 0 es)

/-- No line is deeper than the lines before it allow. -/
def Climbs (room : Nat) : List Entry → Prop
  | [] => True
  | e :: es => e.depth ≤ room ∧ Climbs (e.depth + e.declared.room) es

/-- The lines of a file, with the meanings that their type names have, outline
an object. -/
def Outlines (r : Registry) (raw : List (Option (List Char))) (o : ObjectValidator) : Prop :=
  ∃ es, List.Forall₂ (Entry.StatedBy r) raw es ∧ Climbs 0 es ∧ o = outline es

theorem declaredAt_nil (depth : Nat) : declaredAt depth [] = [] := by rw [declaredAt]

theorem declaredAt_cons {depth : Nat} {e : Entry} (rest : List Entry) (h : e.depth = depth) :
    declaredAt depth (e :: rest) =
      (e.name, e.declared.validator (declaredAt (depth + 1) (rest.takeWhile (depth < ·.depth)))) ::
        declaredAt depth rest := by
  rw [declaredAt, if_pos h]

/-- Lines below a depth declare nothing at it. -/
theorem declaredAt_dropWhile (depth : Nat) (es : List Entry) :
    declaredAt depth (es.dropWhile (depth < ·.depth)) = declaredAt depth es := by
  induction es with
  | nil => rfl
  | cons e rest ih =>
    by_cases hdeep : depth < e.depth
    · rw [List.dropWhile_cons_of_pos (by simpa using hdeep), ih, declaredAt, if_neg (by omega)]
    · rw [List.dropWhile_cons_of_neg (by simpa using hdeep)]

/-! ## Lines that climb -/

/-- Past any lines, a line that is no deeper than some room starts lines that
climb from there. -/
theorem Climbs.of_append {room room' : Nat} {before : List Entry} {e : Entry} {rest : List Entry}
    (h : Climbs room (before ++ e :: rest)) (hroom : e.depth ≤ room') :
    Climbs room' (e :: rest) := by
  induction before generalizing room with
  | nil => exact ⟨hroom, h.2⟩
  | cons b before ih => exact ih h.2

theorem Climbs.left_of_append {room : Nat} {before rest : List Entry}
    (h : Climbs room (before ++ rest)) : Climbs room before := by
  induction before generalizing room with
  | nil => trivial
  | cons b before ih => exact ⟨h.1, ih h.2⟩

/-- The lines after the body of a line climb from the depth of that line. -/
theorem Climbs.dropWhile {room depth : Nat} {es : List Entry} (h : Climbs room es) :
    Climbs depth (es.dropWhile (depth < ·.depth)) := by
  cases hrest : es.dropWhile (depth < ·.depth) with
  | nil => trivial
  | cons e rest =>
    have hnot : e.depth ≤ depth := by
      have hhead := List.head?_dropWhile_not (fun e : Entry => decide (depth < e.depth)) es
      rw [hrest] at hhead
      simpa using hhead
    rw [← List.takeWhile_append_dropWhile (p := (depth < ·.depth)) (l := es), hrest] at h
    exact h.of_append hnot

/-! ## The stack -/

namespace Building

/-- Adds an entry: closes what is deeper, then declares. -/
def add (b : Building) (e : Entry) : Building := (b.closeTo e.depth).declare e.name e.declared

/-- Adds entries in order. -/
def addAll (b : Building) (es : List Entry) : Building := es.foldl add b

/-- Sets fields of the innermost open object in order. -/
def setAll (b : Building) (fields : List (String × Validator)) : Building :=
  fields.foldl (fun b f => b.set f.1 f.2) b

@[simp] theorem length_frames_set (b : Building) (name : String) (v : Validator) :
    (b.set name v).frames.length = b.frames.length := by
  obtain ⟨root, _ | ⟨f, fs⟩⟩ := b <;> rfl

@[simp] theorem length_frames_close (b : Building) :
    b.close.frames.length = b.frames.length - 1 := by
  obtain ⟨root, _ | ⟨f, fs⟩⟩ := b
  · rfl
  · rw [close, length_frames_set]
    rfl

theorem length_frames_iterate_close (b : Building) (n : Nat) :
    (close^[n] b).frames.length = b.frames.length - n := by
  induction n with
  | zero => rfl
  | succ n ih => rw [Function.iterate_succ_apply', length_frames_close, ih, Nat.sub_sub]

theorem closeTo_eq_iterate (depth : Nat) (b : Building) :
    b.closeTo depth = close^[b.frames.length - depth] b := by
  rw [closeTo, List.foldl_const, List.length_range]

theorem length_frames_closeTo (depth : Nat) (b : Building) :
    (b.closeTo depth).frames.length = min depth b.frames.length := by
  rw [closeTo_eq_iterate, length_frames_iterate_close]
  omega

theorem closeTo_of_length_le {depth : Nat} {b : Building} (h : b.frames.length ≤ depth) :
    b.closeTo depth = b := by
  rw [closeTo_eq_iterate, Nat.sub_eq_zero_of_le h]
  rfl

/-- Closing in two steps. -/
theorem closeTo_closeTo {depth depth' : Nat} (h : depth ≤ depth') (b : Building) :
    (b.closeTo depth').closeTo depth = b.closeTo depth := by
  by_cases hlength : b.frames.length ≤ depth'
  · rw [closeTo_of_length_le hlength]
  · rw [closeTo_eq_iterate depth (b.closeTo depth'), length_frames_closeTo,
      closeTo_eq_iterate depth' b, closeTo_eq_iterate depth b, ← Function.iterate_add_apply]
    congr 2
    omega

theorem closeTo_of_length_eq_succ {depth : Nat} {b : Building} (h : b.frames.length = depth + 1) :
    b.closeTo depth = b.close := by
  rw [closeTo_eq_iterate, h, Nat.add_sub_cancel_left]
  rfl

theorem length_frames_add {b : Building} {e : Entry} (h : e.depth ≤ b.frames.length) :
    (b.add e).frames.length = e.depth + e.declared.room := by
  have hclosed : (b.closeTo e.depth).frames.length = e.depth := by
    rw [length_frames_closeTo, Nat.min_eq_left h]
  unfold add
  cases hdeclared : e.declared with
  | leaf v => rw [declare, length_frames_set, hclosed]; rfl
  | opens o isArray =>
    rw [declare, enter, List.length_cons, length_frames_set, hclosed]
    rfl

/-- A line closes as much, whether deeper objects were closed before or not. -/
theorem add_closeTo {b : Building} {e : Entry} {depth : Nat} (h : e.depth ≤ depth) :
    (b.closeTo depth).add e = b.add e := by
  rw [add, closeTo_closeTo h, add]

theorem setAll_frames (root : ObjectValidator) (f : Frame) (fs : List Frame)
    (fields : List (String × Validator)) :
    setAll ⟨root, f :: fs⟩ fields = ⟨root, { f with object := f.object.setAll fields } :: fs⟩ := by
  induction fields generalizing f with
  | nil => rfl
  | cons field fields ih => exact ih { f with object := f.object.set field.1 field.2 }

theorem setAll_root (root : ObjectValidator) (fields : List (String × Validator)) :
    setAll ⟨root, []⟩ fields = ⟨root.setAll fields, []⟩ := by
  induction fields generalizing root with
  | nil => rfl
  | cons field fields ih => exact ih (root.set field.1 field.2)

theorem set_set (b : Building) (name : String) (v later : Validator) :
    (b.set name v).set name later = b.set name later := by
  obtain ⟨root, _ | ⟨f, fs⟩⟩ := b <;> simp only [set, ObjectValidator.set, Keyed.set_set]

/-- **Closing an object puts it where its placeholder was.** -/
theorem close_setAll_enter (b : Building) (name : String) (o : ObjectValidator) (isArray : Bool)
    (fields : List (String × Validator)) :
    ((b.enter name o isArray).setAll fields).close =
      b.set name ((Declared.opens o isArray).validator fields) := by
  rw [enter, setAll_frames, close]
  exact set_set ..

theorem length_frames_setAll (b : Building) (fields : List (String × Validator)) :
    (b.setAll fields).frames.length = b.frames.length := by
  induction fields generalizing b with
  | nil => rfl
  | cons field fields ih => rw [setAll, List.foldl_cons, ← setAll, ih, length_frames_set]

/-- The first of further lines closes what they do not continue. -/
theorem closeTo_addAll_closeTo {depth : Nat} {es : List Entry} (h : Climbs depth es)
    (b : Building) : ((b.closeTo depth).addAll es).closeTo depth = (b.addAll es).closeTo depth := by
  cases es with
  | nil => exact closeTo_closeTo (Nat.le_refl depth) b
  | cons e rest => rw [addAll, addAll, List.foldl_cons, List.foldl_cons, add_closeTo h.1]

/-- **What is set by the time an object is closed.**  With as many objects open
as the depth of the lines to come, reading those lines and closing what they
opened sets the fields that they declare at that depth. -/
theorem closeTo_addAll {depth : Nat} {es : List Entry} {b : Building}
    (hopen : b.frames.length = depth) (hclimbs : Climbs depth es)
    (hdeep : ∀ e ∈ es, depth ≤ e.depth) :
    (b.addAll es).closeTo depth = b.setAll (declaredAt depth es) := by
  induction hn : es.length using Nat.strongRecOn generalizing es depth b with
  | _ n ih =>
    cases es with
    | nil =>
      rw [declaredAt_nil]
      exact closeTo_of_length_le (Nat.le_of_eq hopen)
    | cons e rest =>
      obtain ⟨hle, hrest⟩ := hclimbs
      have hdepth : e.depth = depth := Nat.le_antisymm hle (hdeep e List.mem_cons_self)
      have hdeep' : ∀ e ∈ rest, depth ≤ e.depth := fun e he => hdeep e (List.mem_cons_of_mem _ he)
      rw [declaredAt_cons rest hdepth, addAll, List.foldl_cons, ← addAll, add, hdepth,
        closeTo_of_length_le (Nat.le_of_eq hopen)]
      cases hdeclared : e.declared with
      | leaf v =>
        -- A leaf leaves no room, so the next line is at its depth again.
        have hroom : Climbs depth rest := by simpa [hdeclared, hdepth, Declared.room] using hrest
        exact ih rest.length (by rw [← hn]; exact Nat.lt_succ_self _)
          (by rw [declare, length_frames_set, hopen]) hroom hdeep' rfl
      | opens o isArray =>
        have hroom : Climbs (depth + 1) rest := by
          simpa [hdeclared, hdepth, Declared.room] using hrest
        have hsplit := List.takeWhile_append_dropWhile (p := (depth < ·.depth)) (l := rest)
        set body := rest.takeWhile (depth < ·.depth) with hbody
        set tail := rest.dropWhile (depth < ·.depth) with htail
        have hbodyDeep : ∀ e ∈ body, depth + 1 ≤ e.depth := by
          intro e he
          have hlt := List.all_eq_true.mp List.all_takeWhile e he
          exact of_decide_eq_true hlt
        have hbodyClimbs : Climbs (depth + 1) body := by
          rw [← hsplit] at hroom
          exact hroom.left_of_append
        have htailClimbs : Climbs depth tail := hroom.dropWhile
        have htailDeep : ∀ e ∈ tail, depth ≤ e.depth := by
          intro e he
          exact hdeep' e ((List.dropWhile_sublist _).subset he)
        have hentered : (b.enter e.name o isArray).frames.length = depth + 1 := by
          rw [enter, List.length_cons, length_frames_set, hopen]
        -- The body is read with the object open, and closing it ends the object.
        have hclosed : ((b.enter e.name o isArray).addAll body).closeTo depth =
            b.set e.name ((Declared.opens o isArray).validator (declaredAt (depth + 1) body)) := by
          have hinner := ih body.length
            (by rw [← hn]; exact Nat.lt_succ_of_le (List.takeWhile_sublist _).length_le)
            hentered hbodyClimbs hbodyDeep rfl
          rw [← closeTo_closeTo (Nat.le_succ depth), hinner,
            closeTo_of_length_eq_succ (by rw [length_frames_setAll, hentered]),
            close_setAll_enter]
        have houter : ∀ v, ((b.set e.name v).addAll tail).closeTo depth =
            (b.set e.name v).setAll (declaredAt depth rest) := by
          intro v
          rw [← declaredAt_dropWhile depth rest, ← htail]
          exact ih tail.length
            (by rw [← hn]; exact Nat.lt_succ_of_le (List.dropWhile_sublist _).length_le)
            (by rw [length_frames_set, hopen]) htailClimbs htailDeep rfl
        calc (((b.enter e.name o isArray).addAll rest)).closeTo depth
            = (((b.enter e.name o isArray).addAll body).addAll tail).closeTo depth := by
              rw [← hsplit, addAll, List.foldl_append]
              rfl
          _ = ((((b.enter e.name o isArray).addAll body).closeTo depth).addAll tail).closeTo
                depth := (closeTo_addAll_closeTo htailClimbs _).symm
          _ = (b.set e.name ((Declared.opens o isArray).validator
                (declaredAt (depth + 1) body))).setAll (declaredAt depth rest) := by
              rw [hclosed, houter]

end Building

/-! ## Reading -/

/-- A line that spells a declaration is refused for its depth or for its type
name, in this order. -/
theorem readLine_of_spells {r : Registry} {number : Nat} {b : Building} {text : List Char}
    {l : Line} (h : l.Spells text) :
    readLine r number b text =
      if b.frames.length < l.depth then .error (.indentation number)
      else match resolve r l.token with
        | .error fault => .error (fault.at number l.token)
        | .ok d => .ok (b.add ⟨l.depth, l.name, d⟩) := by
  have hheight : (b.closeTo l.depth).frames.length < l.depth ↔ b.frames.length < l.depth := by
    rw [Building.length_frames_closeTo]
    omega
  unfold readLine
  rw [Line.read?_eq_some_iff.mpr h]
  simp only [hheight]
  cases resolve r l.token <;> rfl

theorem readLine_eq_ok_iff {r : Registry} {number : Nat} {b b' : Building} {text : List Char} :
    readLine r number b text = .ok b' ↔
      ∃ e, Entry.StatedBy r (some text) e ∧ e.depth ≤ b.frames.length ∧ b' = b.add e := by
  constructor
  · intro h
    cases hline : Line.read? text with
    | none =>
      rw [readLine, hline] at h
      cases h
    | some l =>
      have hspells := Line.read?_eq_some_iff.mp hline
      rw [readLine_of_spells hspells] at h
      by_cases hdepth : b.frames.length < l.depth
      · rw [if_pos hdepth] at h
        cases h
      · rw [if_neg hdepth] at h
        cases hdeclared : resolve r l.token with
        | error fault => rw [hdeclared] at h; cases h
        | ok d =>
          rw [hdeclared] at h
          exact ⟨⟨l.depth, l.name, d⟩,
            ⟨text, l.token, rfl, hspells, resolve_eq_ok_iff.mp hdeclared⟩,
            Nat.le_of_not_lt hdepth, (Except.ok.inj h).symm⟩
  · rintro ⟨e, ⟨text, token, htext, hspells, hdenotes⟩, hdepth, rfl⟩
    obtain rfl := Option.some.inj htext
    rw [readLine_of_spells hspells, if_neg (Nat.not_lt.mpr hdepth)]
    simp only [resolve_eq_ok_iff.mpr hdenotes]

/-- Reading lines adds the entries that they state, as long as these climb. -/
theorem readLines_eq_ok_iff {r : Registry} {number : Nat} {b b' : Building}
    {raw : List (Option (List Char))} :
    readLines r number b raw = .ok b' ↔
      ∃ es, List.Forall₂ (Entry.StatedBy r) raw es ∧ Climbs b.frames.length es ∧
        b' = b.addAll es := by
  induction raw generalizing number b with
  | nil =>
    constructor
    · intro h
      exact ⟨[], .nil, trivial, (Except.ok.inj h).symm⟩
    · rintro ⟨es, hes, -, rfl⟩
      cases hes
      rfl
  | cons line raw ih =>
    cases line with
    | none =>
      constructor
      · intro h
        cases h
      · rintro ⟨es, hes, -, -⟩
        obtain ⟨e, -, ⟨_, _, hnone, -⟩, -⟩ := List.forall₂_cons_left_iff.mp hes
        cases hnone
    | some text =>
      rw [readLines]
      constructor
      · intro h
        split at h
        · cases h
        · rename_i b₁ hline
          obtain ⟨e, hstated, hdepth, rfl⟩ := readLine_eq_ok_iff.mp hline
          obtain ⟨es, hes, hclimbs, rfl⟩ := ih.mp h
          rw [Building.length_frames_add hdepth] at hclimbs
          exact ⟨e :: es, .cons hstated hes, ⟨hdepth, hclimbs⟩, rfl⟩
      · rintro ⟨es, hes, hclimbs, rfl⟩
        obtain ⟨e, es', hstated, hes', rfl⟩ := List.forall₂_cons_left_iff.mp hes
        rw [readLine_eq_ok_iff.mpr ⟨e, hstated, hclimbs.1, rfl⟩]
        have hrest := hclimbs.2
        rw [← Building.length_frames_add hclimbs.1] at hrest
        exact ih.mpr ⟨es', hes', hrest, rfl⟩

/-- What lines set in an empty building is what they outline. -/
theorem closeTo_addAll_empty {es : List Entry} (h : Climbs 0 es) :
    ((Building.addAll {} es).closeTo 0).root = outline es := by
  have hopen : (show Building from {}).frames.length = 0 := rfl
  rw [Building.closeTo_addAll hopen h fun e _ => Nat.zero_le _, Building.setAll_root]
  rfl

/-- **Reading with a stack gives what the lines outline.** -/
theorem readAll_eq_ok_iff {r : Registry} {raw : List (Option (List Char))} {o : ObjectValidator} :
    readAll r raw = .ok o ↔ Outlines r raw o := by
  unfold readAll
  constructor
  · intro h
    cases hlines : readLines r 1 {} raw with
    | error e => rw [hlines] at h; cases h
    | ok b =>
      rw [hlines] at h
      obtain ⟨es, hes, hclimbs, rfl⟩ := readLines_eq_ok_iff.mp hlines
      refine ⟨es, hes, hclimbs, ?_⟩
      rw [← closeTo_addAll_empty hclimbs]
      exact (Except.ok.inj h).symm
  · rintro ⟨es, hes, hclimbs, rfl⟩
    have hlines : readLines r 1 {} raw = .ok (Building.addAll {} es) :=
      readLines_eq_ok_iff.mpr ⟨es, hes, hclimbs, rfl⟩
    rw [hlines, ← closeTo_addAll_empty hclimbs]
    rfl

/-- **A schema is the outline of its lines**, whether it is read from bytes or
from a text.  So the fields of an object are those declared by the lines below
its own; no placeholder is left, and no line is a field of another object than
the one it stands under.  Fields are entered in the order of the lines: each name
once, where it was first, and with what was declared last. -/
theorem schema_is_outline (r : Registry) (o : ObjectValidator) :
    (∀ bytes, readBytes r bytes = .ok o ↔ Outlines r (linesOfBytes bytes) o) ∧
      (∀ text, read r text = .ok o ↔ Outlines r (linesOfText text.toList) o) ∧
      ∀ hook fields, (ObjectValidator.setAll { hook } fields).hook = hook ∧
        (ObjectValidator.setAll { hook } fields).keys = (Keyed.keys fields).eraseDups ∧
        ∀ name, (ObjectValidator.setAll { hook } fields).get? name =
          Keyed.get? fields.reverse name := by
  refine ⟨fun _ => readAll_eq_ok_iff, fun _ => readAll_eq_ok_iff, fun hook fields => ?_⟩
  have hempty : ({ hook } : ObjectValidator).keys = ([] : List String).eraseDups := rfl
  refine ⟨ObjectValidator.hook_setAll .., ObjectValidator.keys_setAll hempty fields, fun name => ?_⟩
  rw [ObjectValidator.get?_setAll]
  exact Option.or_none

end Notation
end DocSchema
