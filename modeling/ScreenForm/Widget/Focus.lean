import ScreenForm.Widget.Tree

/-!
# Focus

Every container keeps the index of the child that has the focus. The focused
widget is the one that the way down through these indices ends at. Stepping
moves the index of the outermost container only.
-/

namespace ScreenForm

/-- The two ways to go through the children of a container. -/
inductive Direction where
  | forward
  | backward
  deriving Repr, DecidableEq, Inhabited

/-- The indices below `size` that lie in a direction from `index`, the nearest first. -/
def Direction.indices (d : Direction) (index size : Nat) : List Nat :=
  match d with
  | .forward => (List.range size).drop (index + 1)
  | .backward => (List.range (min index size)).reverse

namespace Tree

/-- The widget that the focus leads to in this many steps, or in fewer if it ends before. -/
def focusedWithin (t : Tree) : Nat → Nat → Nat
  | 0, id => id
  | steps + 1, id =>
    match t.focusedChild? id with
    | some child => t.focusedWithin steps child
    | none => id

/-- The widget that the focus leads to. -/
def focusedLeaf (t : Tree) (id : Nat) : Nat :=
  t.focusedWithin t.size id

/-- The widget that the focus leads to, if it can have the focus. -/
def focused? (t : Tree) (id : Nat) : Option Nat :=
  let leaf := t.focusedLeaf id
  if (t.widget leaf).isFocusable then some leaf else none

/-- The outermost container, inside the wrappers around it. -/
def outermost? (t : Tree) (id : Nat) : Option Nat :=
  let inner := t.unwrap id
  if (t.widget inner).isContainer then some inner else none

def setFocus (t : Tree) (id index : Nat) : Tree :=
  t.modify id (·.setFocusIndex index)

/-- Moves the focus of the outermost container to the nearest child in a direction through which
it leads to a widget that can have it. -/
def stepFocus? (t : Tree) (root : Nat) (d : Direction) : Option Tree := do
  let list ← t.outermost? root
  let w := t.widget list
  (d.indices w.focusIndex w.children.length).findSome? fun index =>
    let moved := t.setFocus list index
    if (moved.focused? root).isSome then some moved else none

/-- Moves the focus of one container to the nearest child in a direction that can take it. -/
def moveFocus? (t : Tree) (id : Nat) (d : Direction) : Option Tree :=
  let w := t.widget id
  let selectable (index : Nat) : Bool := (w.children[index]?.map t.isSelectable).getD false
  ((d.indices w.focusIndex w.children.length).find? selectable).map (t.setFocus id)

end Tree

end ScreenForm
