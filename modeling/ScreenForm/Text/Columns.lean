import ScreenForm.Text.Class
import ScreenForm.Text.Table.Width

/-!
# Columns of a character

How many columns of the screen a character takes by itself. Editions of the
standard differ in this: what the layout of a form goes by is a later one than
what the cells of the screen go by.
-/

namespace ScreenForm.Text

/-- An edition of the standard, by what it is used for. -/
inductive Edition where
  | layout
  | screen
  deriving Repr, DecidableEq

/-- The columns of a character by the later edition. -/
def laterColumns (c : Char) : Nat :=
  if c.toNat = 0x17d8 then 3
  else if Table.zeroWidth.contains c then 0
  else if Table.wide.contains c then 2
  else 1

namespace Edition

/-- The columns that a character takes by itself. Characters of East Asian scripts and pictures
take two, and controls and combining characters none. -/
def columns (e : Edition) (c : Char) : Nat :=
  if isControl c then 0
  else if c.toNat < 0x80 then 1
  else if e = layout then laterColumns c
  else if Table.earlierZero.contains c then 0
  else if Table.earlierOne.contains c then 1
  else if Table.earlierTwo.contains c then 2
  else laterColumns c

end Edition

/-- The columns that a character takes in the layout of a form. -/
def columns (c : Char) : Nat :=
  Edition.layout.columns c

end ScreenForm.Text
