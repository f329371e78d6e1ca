import ScreenForm.Screen.Area
import ScreenForm.Widget.Basic

/-!
# Arrangements

How containers and wrappers measure and place their children, given only the
heights that the children need. `childWidths` says how wide each child is,
`height` how high the whole then gets, and `slots` where in an area each child
goes. Children that find no room have no slot.
-/

namespace ScreenForm

/-- The place of one child of a widget. -/
structure Slot where
  index : Nat
  area : Area
  deriving Repr, DecidableEq, Inhabited

namespace Layout

/-- The cells that pieces take together. -/
def total (pieces : List Nat) : Nat :=
  pieces.foldr (· + ·) 0

/-! ## Columns -/

def isWeight : ColumnWidth → Bool
  | .weight _ => true
  | .fixed _ => false

/-- The share of a column, or nothing for a fixed one. -/
def share : ColumnWidth → Nat
  | .weight share => share
  | .fixed _ => 0

/-- The width of a fixed column, or nothing for another one. -/
def fixedColumns : ColumnWidth → Nat
  | .weight _ => 0
  | .fixed columns => columns

/-- Gives columns out to the rest of the widths, when `given` of the `available` ones are gone. A
fixed width gets what is left of it. The last weight gets all that the fixed ones after it leave,
and the others get their share of `flexible`, rounded down. -/
def giveColumns (available flexible shares given : Nat) : List ColumnWidth → List Nat
  | [] => []
  | width :: rest =>
    let columns :=
      match width with
      | .fixed columns => min columns (available - given)
      | .weight share =>
        if rest.any isWeight then flexible * share / shares
        else available - given - total (rest.map fixedColumns)
    columns :: giveColumns available flexible shares (given + columns) rest

/-- The columns that are left for children when there are `count` of them and `gap` between two. -/
def availableColumns (width gap count : Nat) : Nat :=
  width - gap * (count - 1)

def columnWidths (widths : List ColumnWidth) (gap width : Nat) : List Nat :=
  let available := availableColumns width gap widths.length
  let flexible := available - total (widths.map fixedColumns)
  giveColumns available flexible (total (widths.map share)) 0 widths

/-- The widths of `count` columns. One that is not given is an equal share. -/
def fullWidths (widths : List ColumnWidth) (count : Nat) : List ColumnWidth :=
  (List.range count).map fun i => widths.getD i (.weight 1)

/-! ## Grids -/

/-- The width of the cells of a grid. -/
def gridCell (cellWidth width : Nat) : Nat :=
  min (max cellWidth 1) (max width 1)

/-- The number of cells in a row of a grid. -/
def gridPerRow (cellWidth columnGap width : Nat) : Nat :=
  max 1 ((width + columnGap) / (gridCell cellWidth width + columnGap))

/-- Pieces of `n` elements; the last one may be shorter. -/
def chunks {α : Type} (n : Nat) (l : List α) : List (List α) :=
  match l with
  | [] => []
  | a :: rest => (a :: rest.take (n - 1)) :: chunks n (rest.drop (n - 1))
termination_by l.length
decreasing_by
  have := List.length_drop (l := rest) (i := n - 1)
  simp only [List.length_cons]
  omega

/-- The height of a row is the one of its highest child. -/
def rowHeight (heights : List Nat) : Nat :=
  heights.foldl max 0

/-! ## Lists -/

/-- Rows of a list are counted in a word of 32 bits. -/
def rowWord : Nat := 4294967296

/-- The children to scroll away in front of the one at `focus`, when the rows up to its end come to
`bottom`: as few as needed for them to fit `room`. -/
def scrolledAway (room bottom : Nat) : List Nat → Nat → Nat
  | height :: rest, focus + 1 =>
    if bottom ≤ room then 0
    else scrolledAway room (bottom - height) rest focus + 1
  | _, _ => 0

/-- The first child that a list shows, so that as many rows as possible of the one at `focus` are
among its `room` rows. -/
def firstShown (room : Nat) (heights : List Nat) (focus : Nat) : Nat :=
  scrolledAway room (total (heights.take (focus + 1))) heights focus

/-- The cells that a border takes from the width and from the height of a list. -/
def borderCells (border : Bool) : Nat :=
  if border then 2 else 0

/-! ## Slots -/

/-- One below the other from row `y` on, each child with its height. -/
def stack (a : Area) (y : Nat) : List (Nat × Nat) → List Slot
  | [] => []
  | (height, index) :: rest =>
    if a.bottom ≤ y then []
    else
      let height := min height (a.bottom - y)
      ⟨index, ⟨a.x, y, a.width, height⟩⟩ :: stack a (y + height) rest

/-- Side by side from column `x` on, each child with its width. -/
def across (a : Area) (gap x : Nat) : List (Nat × Nat) → List Slot
  | [] => []
  | (width, index) :: rest =>
    if a.right ≤ x then []
    else
      let width := min width (a.right - x)
      ⟨index, ⟨x, a.y, width, a.height⟩⟩ :: across a gap (x + width + gap) rest

/-- One row of a grid from column `x` on. -/
def gridRow (a : Area) (y cell gap height x : Nat) : List (Nat × Nat) → List Slot
  | [] => []
  | (_, index) :: rest =>
    ⟨index, ⟨x, y, min cell (a.right - x), height⟩⟩ ::
      gridRow a y cell gap height (x + cell + gap) rest

/-- The rows of a grid from row `y` on, each child with its height. -/
def gridRows (a : Area) (cell columnGap rowGap : Nat) (align : Align) (y : Nat) :
    List (List (Nat × Nat)) → List Slot
  | [] => []
  | row :: rest =>
    if a.bottom ≤ y then []
    else
      let used := cell * row.length + columnGap * (row.length - 1)
      let height := min (rowHeight (row.map (·.1))) (a.bottom - y)
      gridRow a y cell columnGap height (a.x + align.offset a.width used) row ++
        gridRows a cell columnGap rowGap align (y + height + rowGap) rest

end Layout

open Layout

namespace Arrangement

/-- The width of each of `count` children. -/
def childWidths (a : Arrangement) (count width : Nat) : List Nat :=
  match a with
  | pile => List.replicate count width
  | columns widths gap => columnWidths (fullWidths widths count) gap width
  | grid cellWidth .. => List.replicate count (gridCell cellWidth width)
  | list _ border => List.replicate count (width - borderCells border)

/-- The height of a container whose children have these heights. -/
def height (a : Arrangement) (width : Nat) (heights : List Nat) : Nat :=
  match a with
  | pile => clampCells (total heights)
  | columns .. => rowHeight heights
  | grid cellWidth columnGap rowGap _ =>
    let rows := chunks (gridPerRow cellWidth columnGap width) heights
    clampCells (total (rows.map rowHeight) + rowGap * (rows.length - 1))
  | list height border => clampCells (height.getD (clampCells (total heights)) + borderCells border)

/-- The part of an area that the children share. -/
def innerArea (a : Arrangement) (area : Area) : Area :=
  match a with
  | list _ true => area.inner
  | _ => area

/-- The places of the children in an area, when they have these heights at their widths. -/
def slots (a : Arrangement) (focus : Nat) (area : Area) (heights : List Nat) : List Slot :=
  let inner := a.innerArea area
  match a with
  | pile => stack inner inner.y heights.zipIdx
  | columns widths gap =>
    across inner gap inner.x (columnWidths (fullWidths widths heights.length) gap area.width).zipIdx
  | grid cellWidth columnGap rowGap align =>
    gridRows inner (gridCell cellWidth area.width) columnGap rowGap align inner.y
      (chunks (gridPerRow cellWidth columnGap area.width) heights.zipIdx)
  | list .. =>
    let start := if focus < heights.length then firstShown inner.height heights focus else 0
    stack inner inner.y (heights.zipIdx.drop start)

/-- Whether the children can be placed when they have these heights. A list adds up the rows through
the child that has the focus, and a sum that a word cannot hold stops the program. -/
def countsRows (a : Arrangement) (focus : Nat) (heights : List Nat) : Bool :=
  match a with
  | list .. => heights.length ≤ focus || total (heights.take (focus + 1)) < rowWord
  | _ => true

end Arrangement

namespace Wrapping

/-- The columns on both sides of the child together. -/
def sides : Wrapping → Nat
  | padding left right => left + right
  | styled .. => 0

def childWidth (w : Wrapping) (width : Nat) : Nat :=
  width - w.sides

/-- The place of the child in an area. -/
def slot (w : Wrapping) (area : Area) : Area :=
  match w with
  | padding left _ =>
    { area with x := min (area.x + left) area.right, width := w.childWidth area.width }
  | styled .. => area

end Wrapping

end ScreenForm
