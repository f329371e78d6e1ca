import ScreenForm.Layout.Arrange
import ScreenForm.Text.Wrap
import ScreenForm.Widget.Tree

/-!
# Measuring

The height that a widget needs at a width, and the slots of its children.
-/

namespace ScreenForm

/-- The caption and the text of a field. -/
def Edit.content (e : Edit) : List Char :=
  e.caption.toList ++ e.text.toList

/-- The height of a widget without children. -/
def Widget.leafRows (w : Widget) (width : Nat) : Nat :=
  match w with
  | text s _ => clampCells (Text.wrap s.toList width).length
  | edit e => clampCells (Text.wrap e.content width).length
  | divider _ _ top bottom => clampCells (top + 1 + bottom)
  | _ => 1

namespace Tree

/-- The height that a widget needs in this many columns, measured on this many levels. -/
def rowsWithin (t : Tree) : Nat → Nat → Nat → Nat
  | 0, _, _ => 0
  | levels + 1, id, width =>
    match t.widget id with
    | .container a children _ =>
      a.height width (List.zipWith (t.rowsWithin levels) children
        (a.childWidths children.length width))
    | .wrapper w child => t.rowsWithin levels child (w.childWidth width)
    | leaf => leaf.leafRows width

/-- The natural height of a widget in this many columns. -/
def rows (t : Tree) (id width : Nat) : Nat :=
  t.rowsWithin t.size id width

/-- The natural heights of children, in the widths that their container gives them. -/
def childRows (t : Tree) (a : Arrangement) (children : List Nat) (width : Nat) : List Nat :=
  List.zipWith t.rows children (a.childWidths children.length width)

/-- Where the children of a widget go in its area. -/
def slots (t : Tree) (id : Nat) (area : Area) : List Slot :=
  match t.widget id with
  | .container a children focus => a.slots focus area (t.childRows a children area.width)
  | .wrapper w _ => [⟨0, w.slot area⟩]
  | _ => []

/-- Whether the children of a widget can be placed in this many columns. -/
def countsRows (t : Tree) (id width : Nat) : Bool :=
  match t.widget id with
  | .container a children focus => a.countsRows focus (t.childRows a children width)
  | _ => true

end Tree

end ScreenForm
