import ScreenForm.Layout.Measure
import ScreenForm.Screen.Buffer
import ScreenForm.Style.Theme

/-!
# Painting

A widget is painted into an area of a buffer: first what is its own, and then
its children, each in its slot. The focus is handed down to the child that has
it. A widget in a lower area than it needs is cut off at the bottom.

`paint` says what that gives, and `render?` does it. A list that has more rows
than it can count stops the program, and then there is nothing to give.
-/

namespace ScreenForm

/-- Writes lines one below the other, as many as the area has rows. -/
def Buffer.putLines (b : Buffer) (a : Area) (lines : List (List Char)) (align : Align)
    (s : Style) : Buffer :=
  ((lines.take a.height).zipIdx).foldl (fun b line =>
    let x := a.x + align.offset a.width (clampCells (Text.displayWidth line.1))
    b.putText x (a.y + line.2) (a.right - x) line.1 s) b

namespace Widget

/-- The text of a button, a check box or a radio button with its signs. -/
def face : Widget → String
  | button label => "< " ++ label ++ " >"
  | checkBox label checked => (if checked then "[X] " else "[ ] ") ++ label
  | radioButton label checked _ => (if checked then "(X) " else "( ) ") ++ label
  | _ => ""

end Widget

namespace Edit

/-- The row and column of the cursor. -/
def cursorPosition (e : Edit) (width : Nat) : Nat × Nat :=
  let positions := Text.wrapPositions e.content width
  positions.getD (min (e.caption.length + e.cursor) (positions.length - 1)) (0, 0)

def paint (e : Edit) (area : Area) (focused : Bool) (b : Buffer) : Buffer :=
  let b := b.putLines area (Text.wrap e.content area.width) .left .plain
  let (row, column) := e.cursorPosition area.width
  if focused && row < area.height && column < area.width then
    b.setStyle ⟨area.x + column, area.y + row, 1, 1⟩ Theme.cursor
  else b

end Edit

/-- Paints a line of a character, with a caption in its middle. -/
def paintDivider (fill : Char) (caption : String) (top : Nat) (area : Area) (b : Buffer) :
    Buffer :=
  if area.height ≤ top then b
  else
    let line : Area := ⟨area.x, area.y + top, area.width, 1⟩
    let b := b.putLines line [List.replicate (area.width / max (Text.columns fill) 1) fill] .left .plain
    if caption.isEmpty then b
    else b.putLines line [(" " ++ caption ++ " ").toList] .center .plain

namespace Widget

/-- Paints what belongs to the widget itself and not to its children. -/
def paintSelf (w : Widget) (area : Area) (focused : Bool) (b : Buffer) : Buffer :=
  match w with
  | text s align => b.putLines area (Text.wrap s.toList area.width) align .plain
  | button .. | checkBox .. | radioButton .. =>
    b.putLines area [w.face.toList] .left (if focused then Theme.focusedLabel else .plain)
  | edit e => e.paint area focused b
  | divider fill caption top _ => paintDivider fill caption top area b
  | container (.list _ true) .. => b.putFrame area Theme.border
  | container .. => b
  | wrapper (.styled normal focus _) _ => b.setStyle area (if focused then focus else normal)
  | wrapper (.padding ..) _ => b

end Widget

namespace Tree

/-- Paints a widget and what is below it on this many levels. -/
def paintWithin (t : Tree) : Nat → Nat → Area → Bool → Buffer → Buffer
  | 0, _, _, _, b => b
  | levels + 1, id, area, focused, b =>
    if area.isEmpty then b
    else
      let w := t.widget id
      (t.slots id area).foldl (fun b slot =>
        match w.children[slot.index]? with
        | some child =>
          t.paintWithin levels child slot.area (focused && slot.index = w.focusIndex) b
        | none => b) (w.paintSelf area focused b)

/-- Paints a widget and all that is below it. A widget that is met again on the way down has lost
the focus or has a smaller area, until nothing is left of the area. -/
def paint (t : Tree) (id : Nat) (area : Area) (focused : Bool) (b : Buffer) : Buffer :=
  t.paintWithin (2 * t.size * (area.width + area.height + 1)) id area focused b

/-- Whether all widgets that get an area, on this many levels, can place their children in it. -/
def paintableWithin (t : Tree) : Nat → Nat → Area → Bool
  | 0, _, _ => true
  | levels + 1, id, area =>
    area.isEmpty ||
      t.countsRows id area.width && (t.slots id area).all fun slot =>
        match (t.widget id).children[slot.index]? with
        | some child => t.paintableWithin levels child slot.area
        | none => true

def paintable (t : Tree) (id : Nat) (area : Area) : Bool :=
  t.paintableWithin (2 * t.size * (area.width + area.height + 1)) id area

/-- Paints a widget and all that is below it, unless that stops the program. -/
def render? (t : Tree) (id : Nat) (area : Area) (focused : Bool) (b : Buffer) : Option Buffer :=
  if t.paintable id area then some (t.paint id area focused b) else none

end Tree

end ScreenForm
