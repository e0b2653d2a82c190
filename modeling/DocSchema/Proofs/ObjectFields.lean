import DocSchema.Proofs.Notation.Expressible
import Mathlib.Data.Finset.Card

/-!
# The fields of an object

An object keeps its fields as a list that is searched from the front.  A field of a known
name is replaced where it stands, and one of a new name goes to the end.  After any calls
that require fields the list is what a map with an order would be
(`ObjectValidator.Follows`): it has each name once, in the order in which the names came
first, with the validator that was required last.

One call keeps this (`ObjectValidator.Follows.set`), so all calls on a new object do
(`ObjectValidator.follows_made`).  The calls grow at their end, where a name moves no name
that came before it (`OrderedBy.concat`) and replaces the last call for itself alone
(`isLastFor_concat`).
-/
namespace DocSchema

namespace Keyed
variable {α : Type}

theorem keys_concat (entries : Keyed α) (e : String × α) :
    (entries ++ [e]).keys = entries.keys ++ [e.1] :=
  List.map_append

/-- Setting a value moves no other name. -/
theorem getElem?_keys_set {key other : String} (h : other ≠ key) (entries : Keyed α) (value : α)
    (i : Nat) : (entries.set key value).keys[i]? = some other ↔ entries.keys[i]? = some other := by
  rw [keys_set]
  split
  · exact Iff.rfl
  · rw [List.getElem?_append]
    split
    · exact Iff.rfl
    · rename_i hi
      have hnone : entries.keys[i]? = none := List.getElem?_eq_none (Nat.le_of_not_lt hi)
      rw [hnone, List.getElem?_singleton]
      split <;> simp [h.symm]

end Keyed

/-! ## The order of the first calls -/

/-- Names that stand in the order in which a list has them first. -/
def OrderedBy (called names : List String) : Prop :=
  names.Pairwise fun a b => called.idxOf a < called.idxOf b

namespace OrderedBy
variable {called names : List String}

/-- A list that goes on has its names where it had them first. -/
theorem concat (h : OrderedBy called names) (hcalled : ∀ a ∈ names, a ∈ called) (name : String) :
    OrderedBy (called ++ [name]) names := by
  refine List.Pairwise.imp_of_mem (fun {a b} ha hb hlt => ?_) h
  rwa [List.idxOf_append_of_mem (hcalled a ha), List.idxOf_append_of_mem (hcalled b hb)]

/-- A new name comes behind all others. -/
theorem concat_new (h : OrderedBy called names) (hcalled : ∀ a ∈ names, a ∈ called) {name : String}
    (hnew : name ∉ called) : OrderedBy (called ++ [name]) (names ++ [name]) := by
  refine List.pairwise_append.mpr ⟨h.concat hcalled name, List.pairwise_singleton .., ?_⟩
  intro a ha b hb
  obtain rfl := List.mem_singleton.mp hb
  have hfirst : called.idxOf a < called.length := List.idxOf_lt_length_of_mem (hcalled a ha)
  rw [List.idxOf_append_of_mem (hcalled a ha), List.idxOf_append_of_notMem hnew]
  exact Nat.lt_add_right _ hfirst

end OrderedBy

/-! ## The last call for a name -/

/-- The last of the calls for a name requires a validator. -/
def IsLastFor (calls : List (String × Validator)) (name : String) (v : Validator) : Prop :=
  ∃ before after, calls = before ++ (name, v) :: after ∧ name ∉ Keyed.keys after

/-- A further call is the last one for its own name, and leaves the last ones for others. -/
theorem isLastFor_concat {calls : List (String × Validator)} {call : String × Validator}
    {name : String} {v : Validator} :
    IsLastFor (calls ++ [call]) name v ↔
      call = (name, v) ∨ call.1 ≠ name ∧ IsLastFor calls name v := by
  constructor
  · rintro ⟨before, after, hcalls, hafter⟩
    rcases List.eq_nil_or_concat' after with rfl | ⟨after, last, rfl⟩
    · exact .inl (List.singleton_inj.mp (List.append_inj' hcalls rfl).2)
    · rw [← List.cons_append, ← List.append_assoc] at hcalls
      obtain ⟨rfl, hlast⟩ := List.append_inj' hcalls rfl
      obtain rfl := List.singleton_inj.mp hlast
      rw [Keyed.keys_concat, List.mem_append, not_or, List.mem_singleton] at hafter
      exact .inr ⟨Ne.symm hafter.2, before, after, rfl, hafter.1⟩
  · rintro (rfl | ⟨hother, before, after, rfl, hafter⟩)
    · exact ⟨calls, [], rfl, List.not_mem_nil⟩
    · refine ⟨before, after ++ [call], by rw [List.append_assoc, List.cons_append], ?_⟩
      rw [Keyed.keys_concat, List.mem_append, not_or, List.mem_singleton]
      exact ⟨hafter, Ne.symm hother⟩

namespace ObjectValidator

/-! ## What an object keeps of the calls on it -/

/-- **An object follows the calls on it.**  It has each of their names once, in the order in
which they came first, with what was required last. -/
structure Follows (calls : List (String × Validator)) (o : ObjectValidator) : Prop where
  nodup : o.keys.Nodup
  mem_keys : ∀ name, name ∈ o.keys ↔ name ∈ Keyed.keys calls
  ordered : OrderedBy (Keyed.keys calls) o.keys
  get?_eq : ∀ name v, o.get? name = some v ↔ IsLastFor calls name v

/-- What calls make of a new object, plain or of a custom kind. -/
def made (hook : Option Hook) (calls : List (String × Validator)) : ObjectValidator :=
  ObjectValidator.setAll { hook } calls

theorem made_concat (hook : Option Hook) (calls : List (String × Validator)) (name : String)
    (v : Validator) : made hook (calls ++ [(name, v)]) = (made hook calls).set name v :=
  List.foldl_append ..

theorem follows_new (hook : Option Hook) : Follows [] { hook } where
  nodup := List.nodup_nil
  mem_keys _ := Iff.rfl
  ordered := List.Pairwise.nil
  get?_eq name v := by
    constructor
    · intro h
      cases h
    · rintro ⟨before, after, h, -⟩
      exact absurd h (by simp)

/-- **A further call is followed as well.** -/
theorem Follows.set {calls : List (String × Validator)} {o : ObjectValidator} (h : o.Follows calls)
    (name : String) (v : Validator) : (o.set name v).Follows (calls ++ [(name, v)]) := by
  have hcalled : ∀ a ∈ o.keys, a ∈ Keyed.keys calls := fun a => (h.mem_keys a).mp
  -- A known name is at its place already, and a new one was in none of the calls.
  have hkeys : (o.set name v).keys = if name ∈ o.keys then o.keys else o.keys ++ [name] :=
    Keyed.keys_set ..
  constructor
  · exact Keyed.nodup_keys_set h.nodup name v
  · intro a
    rw [hkeys, Keyed.keys_concat, List.mem_append, ← h.mem_keys, List.mem_singleton]
    split
    · rename_i hknown
      exact ⟨.inl, fun ha => ha.elim id fun hname => hname ▸ hknown⟩
    · rw [List.mem_append, List.mem_singleton]
  · rw [hkeys, Keyed.keys_concat]
    split
    · exact h.ordered.concat hcalled name
    · rename_i hnew
      exact h.ordered.concat_new hcalled (mt (h.mem_keys name).mpr hnew)
  · intro other w
    rw [get?_set, isLastFor_concat, ← h.get?_eq]
    by_cases hname : name = other
    · simp [hname]
    · simp [hname]

/-- **All calls on a new object are followed.** -/
theorem follows_made (hook : Option Hook) (calls : List (String × Validator)) :
    (made hook calls).Follows calls := by
  induction calls using List.reverseRecOn with
  | nil => exact follows_new hook
  | append_singleton calls call ih =>
    rw [made_concat]
    exact ih.set call.1 call.2

/-- A name that has no call has no validator. -/
theorem Follows.get?_eq_none_iff {calls : List (String × Validator)} {o : ObjectValidator}
    (h : o.Follows calls) (name : String) : o.get? name = none ↔ name ∉ Keyed.keys calls := by
  rw [← h.mem_keys, keys, Keyed.mem_keys_iff, get?, Bool.not_eq_true, Option.isSome_eq_false_iff,
    Option.isNone_iff_eq_none]

/-- There are as many fields as the calls have names. -/
theorem Follows.size_eq {calls : List (String × Validator)} {o : ObjectValidator}
    (h : o.Follows calls) : o.size = (Keyed.keys calls).toFinset.card := by
  have hnames : (Keyed.keys calls).toFinset = o.keys.toFinset := by
    ext name
    rw [List.mem_toFinset, List.mem_toFinset, h.mem_keys]
  rw [hnames, List.toFinset_card_of_nodup h.nodup, keys, Keyed.keys, List.length_map, size]

/-- **An object is an ordered map of its fields.**  Whatever calls have been made on a new
object, it has each name once, in the order in which the names came first, with what was
required last, and no validator for any other name; it is of the kind that it was new; and a
further call changes neither the validator nor the place of another name. -/
theorem fields_are_ordered_map (hook : Option Hook) (calls : List (String × Validator)) :
    (made hook calls).Follows calls ∧
      (∀ name, (made hook calls).get? name = none ↔ name ∉ Keyed.keys calls) ∧
      (made hook calls).size = (Keyed.keys calls).toFinset.card ∧
      (made hook calls).hook = hook ∧ (made hook calls).token = Hook.token hook ∧
      ∀ name v, made hook (calls ++ [(name, v)]) = (made hook calls).set name v ∧
        ∀ other ≠ name, ((made hook calls).set name v).get? other = (made hook calls).get? other ∧
          ∀ i : Nat, ((made hook calls).set name v).keys[i]? = some other ↔
            (made hook calls).keys[i]? = some other := by
  have hfollows := follows_made hook calls
  have hhook : (made hook calls).hook = hook := hook_setAll ..
  refine ⟨hfollows, hfollows.get?_eq_none_iff, hfollows.size_eq, hhook, ?_, fun name v => ?_⟩
  · rw [token, hhook]
  · refine ⟨made_concat hook calls name v, fun other hother => ⟨?_, fun i => ?_⟩⟩
    · rw [get?_set, if_neg hother.symm]
    · exact Keyed.getElem?_keys_set hother _ v i

/-- A field that is required again keeps its place. -/
example : (made none [("a", .leaf .int), ("b", .leaf .int), ("a", .leaf .string)]).fields.map
    (fun f => (f.1, f.2.token)) = [("a", "String"), ("b", "Int")] := by decide

end ObjectValidator
end DocSchema
