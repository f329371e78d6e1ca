import ScreenForm.Widget.Basic

/-!
# Trees of widgets

The widgets of a form, numbered in the order in which they were added. Widgets
refer to their children by number, and a child may be added before or after its
parent. A way down that meets no widget twice has at most as many levels as the
tree has widgets, so the functions on trees look at that many levels and not
further; a form adds every child before its parent.
-/

namespace ScreenForm

/-- What a description says of a widget apart from what it is. -/
structure Meta where
  id : Option String := none
  info : Option String := none
  tooltip : Option String := none
  events : Bindings := {}
  /-- The line of the description, or zero for a widget that no line describes. -/
  line : Nat := 0
  deriving Repr, DecidableEq, Inhabited

structure Node where
  widget : Widget
  about : Meta := {}
  deriving Repr, DecidableEq, Inhabited

structure Tree where
  nodes : Array Node := #[]
  deriving Repr, DecidableEq, Inhabited

namespace Tree

def size (t : Tree) : Nat :=
  t.nodes.size

/-- Adds a widget, which gets the number `t.size`. -/
def add (t : Tree) (widget : Widget) (about : Meta) : Tree :=
  ⟨t.nodes.push ⟨widget, about⟩⟩

def node (t : Tree) (id : Nat) : Node :=
  t.nodes[id]?.getD default

def widget (t : Tree) (id : Nat) : Widget :=
  (t.node id).widget

def about (t : Tree) (id : Nat) : Meta :=
  (t.node id).about

def modify (t : Tree) (id : Nat) (f : Widget → Widget) : Tree :=
  ⟨t.nodes.modify id fun n => { n with widget := f n.widget }⟩

/-- The children of a widget. -/
def children (t : Tree) (id : Nat) : List Nat :=
  (t.widget id).children

/-- The child that has the focus, when the widget itself has it. -/
def focusedChild? (t : Tree) (id : Nat) : Option Nat :=
  (t.children id)[(t.widget id).focusIndex]?

/-- The widget without the wrappers around it on this many levels. -/
def unwrapWithin (t : Tree) : Nat → Nat → Nat
  | 0, id => id
  | levels + 1, id =>
    match t.widget id with
    | .wrapper _ child => t.unwrapWithin levels child
    | _ => id

/-- The widget without the wrappers around it. -/
def unwrap (t : Tree) (id : Nat) : Nat :=
  t.unwrapWithin t.size id

/-- Whether a widget on one of this many levels can take the focus. -/
def isSelectableWithin (t : Tree) : Nat → Nat → Bool
  | 0, _ => false
  | levels + 1, id =>
    (t.widget id).isFocusable || (t.children id).any (t.isSelectableWithin levels)

/-- Whether a widget or one further down can take the focus. -/
def isSelectable (t : Tree) (id : Nat) : Bool :=
  t.isSelectableWithin t.size id

/-- The index of the first child that can take the focus, or zero. -/
def firstSelectable (t : Tree) (children : List Nat) : Nat :=
  (children.findIdx? t.isSelectable).getD 0

/-- Wraps a widget in the style that the palette has for the names, and gives the number of the
outer one. Without such a style the widget stays as it is. -/
def wrapStyle (t : Tree) (id : Nat) (palette : Palette) (names : List String) : Tree × Nat :=
  match palette.resolve names with
  | none => (t, id)
  | some resolved =>
    let wrapping := .styled (palette.style resolved.normal) (palette.style resolved.focus) resolved
    let outer := t.size
    (t.add (.wrapper wrapping id) {}, outer)

/-- Unchecks the radio buttons of a group, except `keep`. -/
def clearGroup (t : Tree) (keep : Nat) (group : String) : Tree :=
  ⟨t.nodes.mapIdx fun id n =>
    if id ≠ keep && n.widget.group? = some group then { n with widget := n.widget.uncheck } else n⟩

/-- Presses a widget: a check box changes over, and a radio button gets checked and unchecks the
others of its group. Other widgets than these and buttons cannot be pressed. -/
def activate? (t : Tree) (id : Nat) : Option Tree :=
  match t.widget id with
  | .button _ => some t
  | .checkBox label checked => some (t.modify id fun _ => .checkBox label (!checked))
  | .radioButton label _ group =>
    let t := t.modify id fun _ => .radioButton label true group
    match group with
    | some group => some (t.clearGroup id group)
    | none => some t
  | _ => none

end Tree

end ScreenForm
