/-!
# Lines of a text

Lines are cut in characters or in bytes: the line feed and the carriage return are parameters. A
line ends with a line feed, which a carriage return may precede; a text that ends there has no
further line.
-/
namespace DocSchema.Lines
variable {α : Type} [DecidableEq α]

/-- The lines, each with whether a line feed ended it. -/
def cut (feed : α) : List α → List (List α × Bool)
  | [] => []
  | c :: rest =>
    if c = feed then ([], true) :: cut feed rest
    else match cut feed rest with
      | [] => [([c], false)]
      | (line, ended) :: more => (c :: line, ended) :: more

/-- A line without the carriage return before its line feed. -/
def dropReturn (carriage : α) (line : List α × Bool) : List α :=
  if line.2 ∧ line.1.getLast? = some carriage then line.1.dropLast else line.1

/-- The lines without their ends. -/
def split (feed carriage : α) (text : List α) : List (List α) :=
  (cut feed text).map (dropReturn carriage)

@[simp] theorem cut_nil (feed : α) : cut feed [] = [] := rfl

@[simp] theorem split_nil (feed carriage : α) : split feed carriage ([] : List α) = [] := rfl

/-- A line that a line feed ends stands in front of the lines after it. -/
theorem cut_append_feed (feed : α) (line rest : List α) (h : feed ∉ line) :
    cut feed (line ++ feed :: rest) = (line, true) :: cut feed rest := by
  induction line with
  | nil => simp [cut]
  | cons c cs ih =>
    rw [List.mem_cons, not_or] at h
    simp [cut, ih h.2, Ne.symm h.1]

/-- A last line that no line feed ends. -/
theorem cut_of_not_mem (feed : α) (line : List α) (h : feed ∉ line) (hne : line ≠ []) :
    cut feed line = [(line, false)] := by
  induction line with
  | nil => exact absurd rfl hne
  | cons c cs ih =>
    rw [List.mem_cons, not_or] at h
    cases cs with
    | nil => simp [cut, Ne.symm h.1]
    | cons d ds => rw [cut, if_neg (Ne.symm h.1), ih h.2 (by simp)]

end DocSchema.Lines
