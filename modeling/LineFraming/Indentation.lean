import LineFraming.Block

/-!
# Indentation

The leading spaces and tabs of a line stand for a number of columns. A space is one column wide
and a tab reaches the next tab stop. Columns are natural numbers, without an upper bound.

Behind the prompt the console prints the indentation that the next line most likely needs. A line
that is read without an editor does not contain it, so it is put in front of the line afterwards,
unless the line says otherwise.

## Main definitions

* `Indentation`: the width of one level, the distance of the tab stops, and whether tabs are
  used to fill. Both sizes are positive, which the type keeps.
* `Indentation.width`: the columns of a line's leading spaces and tabs.
* `Indentation.fill`: spaces and tabs that stand for a number of columns.
* `Prefill.merge`: a line with the prefilled indentation in front.

## Main results

* `Indentation.width_fill`: filling and measuring are inverse.
-/

namespace LineFraming

/-- How indentation is measured and written. -/
structure Indentation where
  /-- The columns of one level. -/
  unit : Nat := 4
  /-- The distance of two tab stops. -/
  tabStop : Nat := 8
  /-- Whether filling uses tabs as far as they go. -/
  useTabs : Bool := false
  unit_pos : 0 < unit := by decide
  tabStop_pos : 0 < tabStop := by decide
  deriving DecidableEq

namespace Indentation

/-- The indentation with the given sizes, where a size of zero counts as one. -/
def ofSizes (unit tabStop : Nat) (useTabs : Bool) : Indentation where
  unit := max unit 1
  tabStop := max tabStop 1
  useTabs := useTabs
  unit_pos := by omega
  tabStop_pos := by omega

/-- The column after a space or a tab that starts at `column`; other characters do not indent. -/
def advance (i : Indentation) (column : Nat) (c : Char) : Option Nat :=
  if c = ' ' then some (column + 1)
  else if c = '\t' then some ((column / i.tabStop + 1) * i.tabStop)
  else none

/-- The column where the indentation of a line ends that starts at `column`. -/
def widthFrom (i : Indentation) (column : Nat) : Text → Nat
  | [] => column
  | c :: rest =>
    match i.advance column c with
    | some next => i.widthFrom next rest
    | none => column

/-- The columns of the leading spaces and tabs of a line. -/
def width (i : Indentation) (line : Text) : Nat := i.widthFrom 0 line

/-- Spaces, and tabs if they are used, that stand for `columns` columns. -/
def fill (i : Indentation) (columns : Nat) : Text :=
  if i.useTabs then
    List.replicate (columns / i.tabStop) '\t' ++ List.replicate (columns % i.tabStop) ' '
  else List.replicate columns ' '

/-! ### Filling and measuring are inverse -/

theorem widthFrom_spaces (i : Indentation) (column n : Nat) (rest : Text) :
    i.widthFrom column (List.replicate n ' ' ++ rest) = i.widthFrom (column + n) rest := by
  induction n generalizing column with
  | zero => simp
  | succ n ih => simp [List.replicate_succ, widthFrom, advance, ih, Nat.add_comm, Nat.add_left_comm]

theorem widthFrom_tabs (i : Indentation) (stops n : Nat) (rest : Text) :
    i.widthFrom (stops * i.tabStop) (List.replicate n '\t' ++ rest) =
      i.widthFrom ((stops + n) * i.tabStop) rest := by
  induction n generalizing stops with
  | zero => simp
  | succ n ih =>
    have h := ih (stops + 1)
    simp [List.replicate_succ, widthFrom, advance, Nat.mul_div_cancel _ i.tabStop_pos]
    rw [h]
    congr 2
    omega

/-- Measuring goes on behind a fill from the column the fill stands for. -/
theorem width_fill_append (i : Indentation) (n : Nat) (rest : Text) :
    i.width (i.fill n ++ rest) = i.widthFrom n rest := by
  unfold width fill
  split
  · have h := widthFrom_tabs i 0 (n / i.tabStop) (List.replicate (n % i.tabStop) ' ' ++ rest)
    simp only [Nat.zero_mul, Nat.zero_add] at h
    rw [List.append_assoc, h, widthFrom_spaces, Nat.div_add_mod']
  · simp [widthFrom_spaces]

/-- A fill is as wide as asked for. -/
@[simp] theorem width_fill (i : Indentation) (n : Nat) : i.width (i.fill n) = n := by
  have h := width_fill_append i n []
  simpa [widthFrom] using h

end Indentation

/-! ### Prefilled indentation -/

/-- Puts the prefilled indentation in front of a typed line. A blank line and a line with leading
blanks of its own stay as they are; a line that continues the statement of the block above moves
one level to the left. -/
def Prefill.merge (i : Indentation) (indent line : Text) : Text :=
  if indent = [] || Text.isBlank line || (line.head?.any Text.isBlankChar) then line
  else if Block.continues line then i.fill (i.width indent - i.unit) ++ line
  else indent ++ line

end LineFraming
