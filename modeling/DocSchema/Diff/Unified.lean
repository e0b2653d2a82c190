import DocSchema.Diff.Compact
import DocSchema.Report.Style
import DocSchema.Text.Lines

/-!
# Unified diffs

A unified diff has the lines that two texts do not share, with some shared lines around them. A
line includes its end; a last line without one is marked.
-/
namespace DocSchema.Diff

/-- The lines of a text with their ends: a line feed, a carriage return, or one and then the
other. -/
def linesOf : List Char → List (List Char)
  | [] => []
  | '\r' :: '\n' :: rest => ['\r', '\n'] :: linesOf rest
  | c :: rest =>
    if c = '\n' ∨ c = '\r' then [c] :: linesOf rest
    else match linesOf rest with
      | [] => [[c]]
      | line :: more => (c :: line) :: more

/-! ## Hunks -/

/-- The number of shared lines around a change. -/
def contextSize : Nat := 3

/-- The last elements of a kept block. -/
def Block.last (b : Block) (n : Nat) : Block :=
  { b with old := b.old + (b.oldSize - n), oldSize := min n b.oldSize
           new := b.new + (b.newSize - n), newSize := min n b.newSize }

/-- The first elements of a kept block. -/
def Block.first (b : Block) (n : Nat) : Block :=
  { b with oldSize := min n b.oldSize, newSize := min n b.newSize }

/-- Cuts a kept block at the beginning or at the end of all blocks. -/
def cutFirst : List Block → List Block
  | b :: bs => if b.kept then b.last contextSize :: bs else b :: bs
  | [] => []

/-- Cuts a kept block at the end of all blocks. -/
def cutLast : List Block → List Block
  | [b] => if b.kept then [b.first contextSize] else [b]
  | b :: bs => b :: cutLast bs
  | [] => []

/-- Divides blocks where many lines are shared; the blocks met so far come last first. -/
def divide (met : List Block) : List Block → List (List Block)
  | [] => [met.reverse]
  | b :: bs =>
    if b.kept ∧ 2 * contextSize < b.oldSize then
      (b.first contextSize :: met).reverse :: divide [b.last contextSize] bs
    else divide (b :: met) bs

/-- The blocks by hunk. A hunk without changes is none. -/
def hunks (bs : List Block) : List (List Block) :=
  (divide [] (cutLast (cutFirst bs))).filter fun hunk => hunk.any (!·.kept)

/-! ## Text -/

/-- A range of lines from a first line up to, but not including, a last one. An empty range is given
by the line before it, and of a range of one line the size is left out. -/
def rangeText (first last : Nat) : List Char :=
  match last - first with
  | 1 => Nat.toDigits 10 (first + 1)
  | 0 => Nat.toDigits 10 first ++ [',', '0']
  | size => Nat.toDigits 10 (first + 1) ++ ',' :: Nat.toDigits 10 size

/-- The line above a hunk, which says where it is. -/
def hunkHead (hunk : List Block) : List Char :=
  match hunk.head?, hunk.getLast? with
  | some a, some z =>
    ['@', '@', ' ', '-'] ++ rangeText a.old (z.old + z.oldSize) ++ [' ', '+'] ++
      rangeText a.new (z.new + z.newSize) ++ [' ', '@', '@', '\n']
  | _, _ => []

/-- What follows a line that has no end. -/
def missingEnd : List Char := "\n\\ No newline at end of file\n".toList

/-- A line after a mark. -/
def markedLine (mark : Char) (line : List Char) : List Char :=
  mark :: (if line.getLast?.any (fun c => c = '\n' ∨ c = '\r') then line else line ++ missingEnd)

/-- The lines of a block. -/
def blockText (old new : List (List Char)) (b : Block) : List Char :=
  let oldLines := (old.drop b.old).take b.oldSize
  let newLines := (new.drop b.new).take b.newSize
  if b.kept then oldLines.flatMap (markedLine ' ')
  else oldLines.flatMap (markedLine '-') ++ newLines.flatMap (markedLine '+')

/-- The diff of two texts under their names; empty if the texts are equal. -/
def unified (oldName newName : String) (oldText newText : List Char) : List Char :=
  let old := linesOf oldText
  let new := linesOf newText
  match hunks (compare old new) with
  | [] => []
  | hs =>
    ['-', '-', '-', ' '] ++ oldName.toList ++ ['\n', '+', '+', '+', ' '] ++ newName.toList ++
      ['\n'] ++
      hs.flatMap fun hunk => hunkHead hunk ++ hunk.flatMap (blockText old new)

/-- The style of a line of a diff, by its mark. -/
def styleOf : List Char → Option Style
  | '+' :: '+' :: '+' :: _ => some .bold
  | '-' :: '-' :: '-' :: _ => some .bold
  | '+' :: _ => some .green
  | '-' :: _ => some .red
  | '@' :: '@' :: _ => some .cyan
  | _ => none

/-- A diff with each line in its style. A carriage return before a line feed is dropped. -/
def colored (diff : List Char) : List Char :=
  (Lines.split '\n' '\r' diff).flatMap fun line =>
    (match styleOf line with
      | some style => style.paint line
      | none => line) ++ ['\n']

/-- The lines of a text are the text. -/
theorem flatten_linesOf (text : List Char) : (linesOf text).flatten = text := by
  fun_induction linesOf text <;> simp_all

end DocSchema.Diff
