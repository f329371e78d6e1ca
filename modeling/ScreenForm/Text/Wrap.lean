import ScreenForm.Text.Split
import ScreenForm.Text.Width

/-!
# Wrapping

A text is broken into lines at its line feeds, and before each character that
would not fit the width any more. A line takes at least one character, however
wide it is. `wrap` gives the lines, and `wrapPositions` the row and the column
of each character and of the end of the text.
-/

namespace ScreenForm.Text

/-- Whether a character starts a new line when `used` columns of this one are taken. -/
def breaksBefore (limit used : Nat) (c : Char) : Bool :=
  0 < used && limit < used + columns c

/-- Puts a character in front of the first line. -/
def consLine (c : Char) : List (List Char) → List (List Char)
  | [] => [[c]]
  | line :: rest => (c :: line) :: rest

/-- The rest of a line of which `used` columns are taken, and the lines after it. -/
def wrapFrom (limit used : Nat) : List Char → List (List Char)
  | [] => [[]]
  | c :: cs =>
    if c = '\n' then [] :: wrapFrom limit 0 cs
    else if breaksBefore limit used c then [] :: consLine c (wrapFrom limit (columns c) cs)
    else consLine c (wrapFrom limit (used + columns c) cs)

/-- The places of the characters of a text that starts at this row and column. A text that fills
its last line ends at the start of the next. -/
def positionsFrom (limit row used : Nat) : List Char → List (Nat × Nat)
  | [] => [if limit ≤ used then (row + 1, 0) else (row, used)]
  | c :: cs =>
    if c = '\n' then (row, used) :: positionsFrom limit (row + 1) 0 cs
    else if breaksBefore limit used c then
      (row + 1, 0) :: positionsFrom limit (row + 1) (columns c) cs
    else (row, used) :: positionsFrom limit row (used + columns c) cs

/-- The lines of a text in this many columns. No columns count as one. -/
def wrap (cs : List Char) (width : Nat) : List (List Char) :=
  wrapFrom (max width 1) 0 cs

/-- The row and column of each character of a wrapped text, and of its end. -/
def wrapPositions (cs : List Char) (width : Nat) : List (Nat × Nat) :=
  positionsFrom (max width 1) 0 0 cs

/-- The columns that the widest line of a text takes when nothing wraps it. -/
def displayWidth (cs : List Char) : Nat :=
  ((splitOn (· = '\n') cs).map width).foldl max 0

theorem wrapFrom_ne_nil (limit used : Nat) (cs : List Char) : wrapFrom limit used cs ≠ [] := by
  cases cs with
  | nil => simp [wrapFrom]
  | cons c cs =>
    rw [wrapFrom]
    split
    · simp
    · split
      · simp
      · unfold consLine
        split <;> simp

theorem length_positionsFrom (limit row used : Nat) (cs : List Char) :
    (positionsFrom limit row used cs).length = cs.length + 1 := by
  induction cs generalizing row used with
  | nil => rfl
  | cons c cs ih =>
    rw [positionsFrom]
    split
    · simp [ih]
    · split <;> simp [ih]

/-- A text has one position more than characters. -/
theorem length_wrapPositions (cs : List Char) (width : Nat) :
    (wrapPositions cs width).length = cs.length + 1 :=
  length_positionsFrom ..

end ScreenForm.Text
