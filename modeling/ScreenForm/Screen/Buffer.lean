import ScreenForm.Screen.Area
import ScreenForm.Style.Basic
import ScreenForm.Text.Cluster

/-!
# Buffers of cells

A buffer is a grid of cells, each with a symbol and a style. Whatever is written
outside of the grid is lost.
-/

namespace ScreenForm

structure Cell where
  /-- The cluster that starts in the cell. -/
  symbol : String := " "
  foreground : Color := .reset
  background : Color := .reset
  effects : Effects := .none
  deriving Repr, DecidableEq, Inhabited

namespace Cell

/-- A cell that nothing was written to. -/
def blank : Cell := {}

/-- Takes the colors that the style gives, and adds its effects. -/
def withStyle (c : Cell) (s : Style) : Cell :=
  { c with
    foreground := s.foreground.getD c.foreground
    background := s.background.getD c.background
    effects := c.effects.union s.effects }

def withSymbol (c : Cell) (symbol : String) : Cell :=
  { c with symbol }

end Cell

structure Buffer where
  width : Nat
  height : Nat
  /-- The cells row by row. -/
  cells : Array Cell
  deriving Repr, DecidableEq, Inhabited

namespace Buffer

def blank (width height : Nat) : Buffer :=
  ⟨width, height, Array.replicate (width * height) .blank⟩

def area (b : Buffer) : Area :=
  .ofSize b.width b.height

def get? (b : Buffer) (x y : Nat) : Option Cell :=
  if x < b.width && y < b.height then b.cells[y * b.width + x]? else none

def modify (b : Buffer) (x y : Nat) (f : Cell → Cell) : Buffer :=
  if x < b.width && y < b.height then { b with cells := b.cells.modify (y * b.width + x) f } else b

/-- The part of an area that lies in the buffer. -/
def clip (b : Buffer) (a : Area) : Area :=
  { a with width := min a.right b.width - a.x, height := min a.bottom b.height - a.y }

/-- Changes every cell of an area. -/
def modifyArea (b : Buffer) (a : Area) (f : Cell → Cell) : Buffer :=
  (b.clip a).cells.foldl (fun b p => b.modify p.1 p.2 f) b

def setStyle (b : Buffer) (a : Area) (s : Style) : Buffer :=
  b.modifyArea a (·.withStyle s)

/-- Makes the cells of an area blank. -/
def clear (b : Buffer) (a : Area) : Buffer :=
  b.modifyArea a fun _ => .blank

/-- Writes a cluster of some columns. The cells that it covers after its own become blank. -/
def putCluster (b : Buffer) (x y : Nat) (symbol : List Char) (columns : Nat) (s : Style) :
    Buffer :=
  (b.modify x y fun c => (c.withSymbol (String.ofList symbol)).withStyle s).clear
    ⟨x + 1, y, columns - 1, 1⟩

/-- Writes clusters from left to right into `room` columns, up to the first that does not fit. -/
def putClusters (b : Buffer) (x y room : Nat) (s : Style) : List (List Char × Nat) → Buffer
  | [] => b
  | (symbol, columns) :: rest =>
    if columns ≤ room then
      (b.putCluster x y symbol columns s).putClusters (x + columns) y (room - columns) s rest
    else b

/-- The clusters of a text that show, with their columns: those without a control character and
with any columns. -/
def visibleClusters (cs : List Char) : List (List Char × Nat) :=
  (((Text.clusters cs).filter fun cluster => !cluster.any Text.isControl).map fun cluster =>
    (cluster, Text.cellWidth cluster)).filter fun cluster => 0 < cluster.2

/-- Writes a text on one row, into at most `limit` columns. -/
def putText (b : Buffer) (x y limit : Nat) (cs : List Char) (s : Style) : Buffer :=
  b.putClusters x y (min (b.width - x) (clampCells limit)) s (visibleClusters cs)

/-- Draws a frame along the edges of an area. -/
def putFrame (b : Buffer) (a : Area) (s : Style) : Buffer :=
  let a := b.clip a
  if a.isEmpty then b
  else
    let side (b : Buffer) (part : Area) (symbol : String) : Buffer :=
      b.modifyArea part fun c => (c.withSymbol symbol).withStyle s
    let b := side b ⟨a.x, a.y, 1, a.height⟩ "│"
    let b := side b ⟨a.x, a.y, a.width, 1⟩ "─"
    let b := side b ⟨a.right - 1, a.y, 1, a.height⟩ "│"
    let b := side b ⟨a.x, a.bottom - 1, a.width, 1⟩ "─"
    let b := side b ⟨a.right - 1, a.bottom - 1, 1, 1⟩ "┘"
    let b := side b ⟨a.right - 1, a.y, 1, 1⟩ "┐"
    let b := side b ⟨a.x, a.bottom - 1, 1, 1⟩ "└"
    side b ⟨a.x, a.y, 1, 1⟩ "┌"

/-- The rows of cells, from the top. Without columns there are none. -/
def rows (b : Buffer) : List (List Cell) :=
  (List.range (if b.width = 0 then 0 else b.height)).map fun y => (b.cells.extract (y * b.width) ((y + 1) * b.width)).toList

/-- The symbols of each row. -/
def lines (b : Buffer) : List String :=
  b.rows.map fun row => String.join (row.map (·.symbol))

end Buffer

end ScreenForm
