import ScreenForm.Number.Double

/-!
# Areas

Rectangles of cells. A column and a row belong to an area from its left and top
edge on, up to but without its right and bottom edge.
-/

namespace ScreenForm

/-- Sizes and positions on a screen are at most this. -/
def maxCells : Nat := 65535

/-- A size, or the largest one that there is. -/
def clampCells (n : Nat) : Nat :=
  min n maxCells

structure Area where
  x : Nat
  y : Nat
  width : Nat
  height : Nat
  deriving Repr, DecidableEq, Inhabited

namespace Area

def ofSize (width height : Nat) : Area :=
  ⟨0, 0, width, height⟩

def right (a : Area) : Nat :=
  a.x + a.width

def bottom (a : Area) : Nat :=
  a.y + a.height

def isEmpty (a : Area) : Bool :=
  a.width = 0 || a.height = 0

/-- Whether a cell belongs to the area. -/
def has (a : Area) (x y : Nat) : Bool :=
  a.x ≤ x && x < a.right && a.y ≤ y && y < a.bottom

/-- The area without the cells at its edges. -/
def inner (a : Area) : Area :=
  { x := min (a.x + 1) a.right
    y := min (a.y + 1) a.bottom
    width := a.width - 2
    height := a.height - 2 }

/-- The cells of the area, row by row. -/
def cells (a : Area) : List (Nat × Nat) :=
  (List.range a.height).flatMap fun dy =>
    (List.range a.width).map fun dx => (a.x + dx, a.y + dy)

/-- A size as near to the wanted one as a screen can have. One with too many cells keeps the
proportion of its sides, which is calculated in doubles, and loses what is left of a cell. -/
def fitSize (width height : Nat) : Nat × Nat :=
  if width * height ≤ maxCells then (width, height)
  else
    let proportion := Number.nearest ((width : Rat) / height)
    let fitted := Number.nearestSqrt (Number.nearest (maxCells / proportion))
    (clampCells (Number.nearest (fitted * proportion)).floor.toNat, clampCells fitted.floor.toNat)

end Area

end ScreenForm
