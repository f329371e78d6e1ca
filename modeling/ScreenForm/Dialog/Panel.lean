import ScreenForm.Form.Assembly
import ScreenForm.Layout.Paint

/-!
# Panels

A panel is a form dressed up as a window over a screen: with its header and its
footer, in a frame of the style `dialog`, and with a shadow if the palette has
one.

    ┌ dialog ──────────────┐
    │ header               │░░  shadow
    │                      │░░
    │ body                 │░░
    │                      │░░
    │ footer               │░░
    └──────────────────────┘░░
      ░░░░░░░░░░░░░░░░░░░░░░░░  shadow.border and shadow
-/

namespace ScreenForm

structure Panel where
  form : Form
  /-- The widget that holds the whole window. -/
  view : Nat
  width : Nat
  /-- The natural height of the view, unless given. -/
  height : Option Nat
  deriving Repr, DecidableEq, Inhabited

namespace Panel

/-- Trees in the making. -/
abbrev Build := StateM Tree

/-- Adds a widget that no line describes. -/
def add (w : Widget) : Build Nat :=
  modifyGet fun t => (t.size, t.add w {})

def wrap (palette : Palette) (name : String) (id : Nat) : Build Nat :=
  modifyGet fun t => (t.wrapStyle id palette [name]).swap

def blank (palette : Palette) (name : String) : Build Nat := do
  wrap palette name (← add (.text "" .left))

def spacer : Build Nat :=
  add (.divider ' ' "" 0 0)

/-- Columns that the shadow takes at the right and leaves free at the left. -/
def shadowWidth : Nat := 2

/-- The header of a panel: the given text, or else the header of its form. -/
def headerOf (f : Form) (header : Option String) : Build (Option Nat) :=
  match header with
  | some text => do return some (← wrap f.palette "header" (← add (.text text .left)))
  | none => return f.header

/-- The header of a panel and a blank row. -/
def above (f : Form) (header : Option String) : Build (List Nat) := do
  match ← headerOf f header with
  | some header => return [header, ← spacer]
  | none => return []

/-- A blank row and the footer of a panel. -/
def below (f : Form) : Build (List Nat) := do
  match f.footer with
  | some footer => return [← spacer, footer]
  | none => return []

/-- Puts the header above the form and the footer below it. -/
def content (f : Form) (header : Option String) : Build Nat := do
  let above ← above f header
  let below ← below f
  if above.isEmpty && below.isEmpty then return f.root
  else add (.container .pile (above ++ f.root :: below) above.length)

/-- Adds the shadow to a frame. -/
def withShadow (palette : Palette) (framed : Nat) : Build Nat := do
  let side ← blank palette "shadow"
  let corner ← blank palette "shadow.border"
  let bottom ← blank palette "shadow"
  let upper ← add
    (.container (.columns [.weight 1, .fixed shadowWidth] 0) [framed, side] 0)
  let lower ← add
    (.container (.columns [.fixed shadowWidth, .weight 1] 0) [corner, bottom] 0)
  add (.container .pile [upper, lower] 0)

/-- Dresses up a form, and gives the widget that holds it all. -/
def dress (f : Form) (header : Option String) : Build Nat := do
  let padded ← add (.wrapper (.padding 1 1) (← content f header))
  let framed ← wrap f.palette "dialog" padded
  if f.palette.contains "shadow" then withShadow f.palette framed else return framed

def ofForm (f : Form) (header : Option String) (width : Nat) (height : Option Nat) : Panel :=
  let (view, tree) := (dress f header).run f.tree
  { form := { f with tree }, view, width, height }

/-- Where the panel is on a screen: in the middle, and no larger than the screen. -/
def areaOn (p : Panel) (screen : Area) : Area :=
  let width := min p.width screen.width
  let height := min (p.height.getD (p.form.tree.rows p.view width)) screen.height
  { x := screen.x + (screen.width - width) / 2
    y := screen.y + (screen.height - height) / 2
    width := width
    height := height }

/-- Paints the panel into an area, with its focus. -/
def paint (p : Panel) (a : Area) (b : Buffer) : Buffer :=
  p.form.tree.paint p.view a true b

def paintable (p : Panel) (a : Area) : Bool :=
  p.form.tree.paintable p.view a

/-- Paints the panel into an area, unless that stops the program. -/
def render? (p : Panel) (a : Area) (b : Buffer) : Option Buffer :=
  if p.paintable a then some (p.paint a b) else none

end Panel

end ScreenForm
