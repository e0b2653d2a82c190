/-!
# Lists of keyed values

One list type serves two orders: `Keyed.set` keeps the order in which the keys were first set,
`Keyed.insert` keeps the keys sorted. Main statements: what a look-up sees after either operation,
which keys a list has afterwards, and that sorting loses no entry whose key is there once.
-/
namespace DocSchema

/-- Values under names, one entry for each name. -/
abbrev Keyed (α : Type) := List (String × α)

namespace Keyed
variable {α β : Type}

/-- The value under a name. -/
def get? (entries : Keyed α) (key : String) : Option α :=
  match entries with
  | [] => none
  | (k, v) :: rest => if k = key then some v else get? rest key

/-- A name has a value. -/
def has (entries : Keyed α) (key : String) : Bool := (entries.get? key).isSome

/-- The names, in the order of the list. -/
def keys (entries : Keyed α) : List String := entries.map Prod.fst

/-- Replaces the value under a name where it stands; a new name goes to the end. -/
def set (entries : Keyed α) (key : String) (value : α) : Keyed α :=
  match entries with
  | [] => [(key, value)]
  | (k, v) :: rest => if k = key then (key, value) :: rest else (k, v) :: set rest key value

/-- Puts a value under a name in a list that is sorted by name. -/
def insert (entries : Keyed α) (key : String) (value : α) : Keyed α :=
  match entries with
  | [] => [(key, value)]
  | (k, v) :: rest =>
    if k = key then (key, value) :: rest
    else if key < k then (key, value) :: (k, v) :: rest
    else (k, v) :: insert rest key value

/-- Removes the value under a name. -/
def erase (entries : Keyed α) (key : String) : Keyed α :=
  match entries with
  | [] => []
  | (k, v) :: rest => if k = key then rest else (k, v) :: erase rest key

/-- Sorts a list by name; of two entries with one name the later one stays. -/
def sort (entries : Keyed α) : Keyed α := entries.foldl (fun sorted e => insert sorted e.1 e.2) []

/-! ## What a look-up sees -/

@[simp] theorem get?_nil (key : String) : get? ([] : Keyed α) key = none := rfl

theorem get?_cons (k : String) (v : α) (rest : Keyed α) (key : String) :
    get? ((k, v) :: rest) key = if k = key then some v else get? rest key := rfl

theorem get?_set (entries : Keyed α) (key other : String) (value : α) :
    (entries.set key value).get? other =
      if key = other then some value else entries.get? other := by
  induction entries with
  | nil => simp [set, get?]
  | cons e rest ih => grind [set, get?]

theorem get?_append (front rest : Keyed α) (key : String) :
    get? (front ++ rest) key = (front.get? key).or (rest.get? key) := by
  induction front with
  | nil => rfl
  | cons e front ih => grind [get?]

/-- Of two values set under one name the later one stays. -/
theorem set_set (entries : Keyed α) (key : String) (value later : α) :
    (entries.set key value).set key later = entries.set key later := by
  induction entries with
  | nil => simp [set]
  | cons e rest ih => grind [set]

theorem get?_insert (entries : Keyed α) (key other : String) (value : α) :
    (entries.insert key value).get? other =
      if key = other then some value else entries.get? other := by
  induction entries with
  | nil => simp [insert, get?]
  | cons e rest ih => grind [insert, get?]

/-! ## Which keys a list has -/

@[simp] theorem keys_nil : keys ([] : Keyed α) = [] := rfl

@[simp] theorem keys_cons (e : String × α) (rest : Keyed α) :
    keys (e :: rest) = e.1 :: keys rest := rfl

theorem mem_keys_iff (entries : Keyed α) (key : String) :
    key ∈ entries.keys ↔ (entries.get? key).isSome := by
  induction entries with
  | nil => simp
  | cons e rest ih => grind [get?, keys_cons]

theorem mem_keys_insert (entries : Keyed α) (key other : String) (value : α) :
    other ∈ (entries.insert key value).keys ↔ other = key ∨ other ∈ entries.keys := by
  rw [mem_keys_iff, mem_keys_iff, get?_insert]
  grind

/-- A known name keeps its position, a new one goes to the end. -/
theorem keys_set (entries : Keyed α) (key : String) (value : α) :
    (entries.set key value).keys =
      if key ∈ entries.keys then entries.keys else entries.keys ++ [key] := by
  induction entries with
  | nil => simp [set]
  | cons e rest ih => grind [set, keys_cons]

/-! ## Sorting -/

/-- A new name joins the others. -/
theorem insert_perm {entries : Keyed α} {key : String} (value : α) (h : key ∉ entries.keys) :
    (entries.insert key value).Perm ((key, value) :: entries) := by
  induction entries with
  | nil => exact .refl _
  | cons e rest ih =>
    rw [keys_cons, List.mem_cons, not_or] at h
    rw [insert, if_neg (Ne.symm h.1)]
    split
    · exact .refl _
    · exact ((ih h.2).cons e).trans (.swap ..)

/-- Sorting keeps all entries if no name is there twice. -/
theorem sort_perm {entries : Keyed α} (h : entries.keys.Nodup) : entries.sort.Perm entries := by
  -- The induction is on what is left to insert, for any list of what is sorted by then.
  have hinsert : ∀ (rest sorted : Keyed α), (keys (sorted ++ rest)).Nodup →
      (rest.foldl (fun sorted e => sorted.insert e.1 e.2) sorted).Perm (sorted ++ rest) := by
    intro rest
    induction rest with
    | nil => exact fun sorted _ => .of_eq (List.append_nil sorted).symm
    | cons e rest ih =>
      intro sorted hnodup
      have hnew : e.1 ∉ sorted.keys := by
        rw [keys, List.map_append] at hnodup
        exact fun hmem => (List.nodup_append.mp hnodup).2.2 _ hmem _ (.head _) rfl
      have hperm : (sorted.insert e.1 e.2 ++ rest).Perm (sorted ++ e :: rest) :=
        ((insert_perm e.2 hnew).append_right rest).trans List.perm_middle.symm
      exact (ih _ ((hperm.map Prod.fst).nodup_iff.mpr hnodup)).trans hperm
  exact hinsert entries [] h

end Keyed
end DocSchema
