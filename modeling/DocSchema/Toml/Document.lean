import DocSchema.Toml.Reader

/-!
# The table of a TOML text

The statements of a text make one table together. A table is announced once by its head; tables on
the way to it, and those on the way to an entry, come into being unannounced. Entries may extend
only tables that entries brought about, heads only those that heads brought about.
-/
namespace DocSchema.Toml

/-- How a table came into being. -/
inductive Origin where
  /-- By its head, or as the root. -/
  | announced
  /-- On the way to a table. -/
  | passed
  /-- On the way to an entry. -/
  | dotted
deriving DecidableEq, Repr

/-- What a name stands for while a table is built. -/
inductive Node where
  /-- A value, to which nothing can be added. -/
  | value (v : Value)
  | table (origin : Origin) (entries : List (String × Node))
  /-- An array of tables, the last one first. -/
  | tables (items : List (List (String × Node)))

/-- The entries of a table. -/
abbrev Entries := List (String × Node)

/-- Changes the table at a path, through the last item of an array of tables. Missing tables on
the way come into being; the way of an entry does not lead through announced ones. -/
def changeAt (way : Origin) (change : Origin → Entries → Option Entries) :
    List String → Origin → Entries → Option Entries
  | [], origin, entries => change origin entries
  | name :: path, _, entries =>
    match Keyed.get? entries name with
    | none =>
      (changeAt way change path way []).map fun inner => Keyed.set entries name (.table way inner)
    | some (.value _) => none
    | some (.tables []) => none
    | some (.tables (item :: items)) =>
      (changeAt way change path .announced item).map fun inner =>
        Keyed.set entries name (.tables (inner :: items))
    | some (.table origin inner) =>
      if way = .dotted ∧ origin = .announced then none
      else (changeAt way change path origin inner).map fun inner =>
        Keyed.set entries name (.table origin inner)

/-- Adds a node under a name that is not used yet. -/
def addNew (name : String) (node : Node) (entries : Entries) : Option Entries :=
  if Keyed.has entries name then none else some (Keyed.set entries name node)

/-- Adds an entry to a table. -/
def addEntry (key : List String) (node : Node) (entries : Entries) : Option Entries :=
  match key.getLast? with
  | none => none
  | some name =>
    let way := key.dropLast
    changeAt .dotted (fun origin inner =>
      if way.isEmpty ∨ origin = .dotted then addNew name node inner else none)
      way .announced entries

/-- Adds entries in order. -/
def addEntries (entries : Entries) (more : List (List String × Value)) : Option Entries :=
  more.foldlM (fun entries e => addEntry e.1 (.value e.2) entries) entries

/-! ## Tables on one line -/

mutual

/-- The value of a node. -/
def Node.toValue : Node → Value
  | .value v => v
  | .table _ entries => .table (entriesToValues entries)
  | .tables items => .array (itemsToValues items).reverse

/-- The values of entries. -/
def entriesToValues : List (String × Node) → List (String × Value)
  | [] => []
  | (name, n) :: rest => (name, n.toValue) :: entriesToValues rest

/-- The values of tables. -/
def itemsToValues : List (List (String × Node)) → List Value
  | [] => []
  | item :: rest => .table (entriesToValues item) :: itemsToValues rest

end

/-- The table of entries on one line. -/
def table? : Building := fun entries => (addEntries [] entries).map entriesToValues

/-! ## Whole texts -/

/-- A head with the entries below it. -/
structure Section where
  /-- The table is an item of an array of tables. -/
  isItem : Bool
  key : List String
  entries : List (List String × Value)

/-- The entries before the first head, and the sections. -/
def sections : List Statement → List (List String × Value) × List Section
  | [] => ([], [])
  | .entry key v :: rest =>
    let (entries, more) := sections rest
    ((key, v) :: entries, more)
  | .head key :: rest =>
    let (entries, more) := sections rest
    ([], ⟨false, key, entries⟩ :: more)
  | .item key :: rest =>
    let (entries, more) := sections rest
    ([], ⟨true, key, entries⟩ :: more)

/-- Puts the table of a section under a name. -/
def placeSection (s : Section) (name : String) (entries : Entries) : Option Entries :=
  match s.isItem, Keyed.get? entries name with
  | true, none => (addEntries [] s.entries).map fun item => Keyed.set entries name (.tables [item])
  | true, some (.tables items) =>
    (addEntries [] s.entries).map fun item => Keyed.set entries name (.tables (item :: items))
  | false, none =>
    (addEntries [] s.entries).map fun table => Keyed.set entries name (.table .announced table)
  | false, some (.table .passed inner) =>
    (addEntries inner s.entries).map fun table => Keyed.set entries name (.table .announced table)
  | _, _ => none

/-- Adds a section to the root. -/
def addSection (root : Entries) (s : Section) : Option Entries :=
  match s.key.getLast? with
  | none => none
  | some name =>
    changeAt .passed (fun _ entries => placeSection s name entries) s.key.dropLast .announced root

/-- The table of a text; none if the text has a fault. -/
def ofText? (text : String) : Option Value := do
  let s := match text.toList with
    | '\ufeff' :: rest => rest
    | s => s
  let statements ← statements? table? (s.length + 1) s
  let (first, rest) := sections statements
  let root ← rest.foldlM addSection (← addEntries [] first)
  return .table (entriesToValues root)

end DocSchema.Toml
