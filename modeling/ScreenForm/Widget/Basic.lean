import ScreenForm.Event
import ScreenForm.Style.Palette

/-!
# Widgets

A widget is a leaf, such as a text or a button, a container that arranges its
children and has one of them focused, or a wrapper around one child. Widgets
refer to their children by number (see `Tree`).
-/

namespace ScreenForm

/-- Where a text stands in the columns that it has. -/
inductive Align where
  | left
  | center
  | right
  deriving Repr, DecidableEq, Inhabited

namespace Align

def all : List Align :=
  [left, center, right]

def name : Align → String
  | left => "left"
  | center => "center"
  | right => "right"

def ofName? (name : String) : Option Align :=
  all.find? (·.name = name)

/-- The columns left free before `used` columns, out of `available`. -/
def offset (align : Align) (available used : Nat) : Nat :=
  match align with
  | left => 0
  | center => (available - used) / 2
  | right => available - used

end Align

/-- The width of one of several columns: a share of what the fixed ones leave, or fixed. -/
inductive ColumnWidth where
  | weight (share : Nat)
  | fixed (columns : Nat)
  deriving Repr, DecidableEq, Inhabited

/-- How a container arranges its children. -/
inductive Arrangement where
  /-- One below the other. -/
  | pile
  /-- Side by side, with `gap` free columns between them. -/
  | columns (widths : List ColumnWidth) (gap : Nat)
  /-- In cells of equal width, from left to right and then down. -/
  | grid (cellWidth columnGap rowGap : Nat) (align : Align)
  /-- One below the other, scrolled so that the focused one shows. Without a height, it is as high
  as its children. -/
  | list (height : Option Nat) (border : Bool)
  deriving Repr, DecidableEq, Inhabited

/-- What a wrapper does around its child. -/
inductive Wrapping where
  /-- Leaves columns free on both sides. -/
  | padding (left right : Nat)
  /-- Paints a style under it, which depends on the focus. -/
  | styled (normal focus : Style) (names : StyleNames)
  deriving Repr, DecidableEq, Inhabited

/-- A field of text that can be edited, after a caption that cannot. The cursor counts the
characters of the text before it. -/
structure Edit where
  caption : String
  text : String
  cursor : Nat
  multiline : Bool
  deriving Repr, DecidableEq, Inhabited

inductive Widget where
  | text (text : String) (align : Align)
  | button (label : String)
  | edit (field : Edit)
  | checkBox (label : String) (checked : Bool)
  | radioButton (label : String) (checked : Bool) (group : Option String)
  | divider (fill : Char) (caption : String) (top bottom : Nat)
  | container (arrangement : Arrangement) (children : List Nat) (focus : Nat)
  | wrapper (wrapping : Wrapping) (child : Nat)
  deriving Repr, DecidableEq, Inhabited

/-- A field with its cursor at the end. -/
def Edit.ofText (caption text : String) (multiline : Bool) : Edit :=
  ⟨caption, text, text.length, multiline⟩

/-- The field with another text and the cursor at its end. -/
def Edit.setText (e : Edit) (text : String) : Edit :=
  { e with text := text, cursor := text.length }

def Arrangement.name : Arrangement → String
  | pile => "Pile"
  | columns .. => "Columns"
  | grid .. => "GridFlow"
  | list .. => "ListBox"

def Wrapping.name : Wrapping → String
  | padding .. => "Padding"
  | styled .. => "AttrMap"

namespace Widget

/-- The name of the kind of a widget, which is also its last choice of a style. -/
def kindName : Widget → String
  | text .. => "Text"
  | button .. => "Button"
  | edit .. => "Edit"
  | checkBox .. => "CheckBox"
  | radioButton .. => "RadioButton"
  | divider .. => "Divider"
  | container arrangement .. => arrangement.name
  | wrapper wrapping .. => wrapping.name

def isClickable : Widget → Bool
  | button .. | checkBox .. | radioButton .. => true
  | _ => false

def isEditable : Widget → Bool
  | edit .. => true
  | _ => false

def isFocusable (w : Widget) : Bool :=
  w.isClickable || w.isEditable

/-- The text on display of a text, an edit or a divider. -/
def text? : Widget → Option String
  | text s _ => some s
  | edit e => some (e.caption ++ e.text)
  | divider _ caption .. => some caption
  | _ => none

def label? : Widget → Option String
  | button label => some label
  | checkBox label _ => some label
  | radioButton label .. => some label
  | _ => none

def editText? : Widget → Option String
  | edit e => some e.text
  | _ => none

def checked? : Widget → Option Bool
  | checkBox _ checked => some checked
  | radioButton _ checked _ => some checked
  | _ => none

def group? : Widget → Option String
  | radioButton _ _ group => group
  | _ => none

/-- Replaces the text of a text, the edited text of an edit or the caption of a divider. -/
def setText? (w : Widget) (s : String) : Option Widget :=
  match w with
  | text _ align => some (text s align)
  | edit e => some (edit (e.setText s))
  | divider fill _ top bottom => some (divider fill s top bottom)
  | _ => none

def setEditText? (w : Widget) (s : String) : Option Widget :=
  match w with
  | edit e => some (edit (e.setText s))
  | _ => none

/-- The children of a container, or the one of a wrapper. -/
def children : Widget → List Nat
  | container _ children _ => children
  | wrapper _ child => [child]
  | _ => []

/-- The index among the children that has the focus. A wrapper always passes it on. -/
def focusIndex : Widget → Nat
  | container _ _ focus => focus
  | _ => 0

def isContainer : Widget → Bool
  | container .. => true
  | _ => false

def setFocusIndex (w : Widget) (index : Nat) : Widget :=
  match w with
  | container arrangement children _ => container arrangement children index
  | w => w

def uncheck : Widget → Widget
  | checkBox label _ => checkBox label false
  | radioButton label _ group => radioButton label false group
  | w => w

end Widget

/-- Whether a widget can produce events of a kind. -/
def EventKind.accepts (kind : EventKind) (w : Widget) : Bool :=
  match kind with
  | press => w.isClickable
  | edit => w.isEditable
  | focus | key => true

end ScreenForm
