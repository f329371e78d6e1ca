import ScreenForm.Widget.Focus

/-!
# Keys

What the widgets do with a key by themselves. A key is offered to the focused
widget first and then to the containers around it, from the inside out, until
one of them uses it.
-/

namespace ScreenForm

/-- Which key it is. The codes that nothing here looks at (null, locks, media keys, modifiers by themselves and the
like) are told apart by number only. -/
inductive KeyCode where
  | char (c : Char)
  | enter
  | tab
  | backTab
  | backspace
  | delete
  | left
  | right
  | up
  | down
  | home
  | toEnd
  | pageUp
  | pageDown
  | escape
  | insert
  | function (number : Nat)
  | other (number : Nat)
  deriving Repr, DecidableEq, Inhabited

/-- A key with the modifiers held. Super, hyper and meta are left out: terminals only tell of them when asked to. -/
structure Key where
  code : KeyCode
  control : Bool := false
  alt : Bool := false
  shift : Bool := false
  deriving Repr, DecidableEq, Inhabited

/-- What came of a key. -/
inductive KeyOutcome where
  | consumed
  /-- A widget was pressed. -/
  | pressed (widget : Nat)
  | unhandled
  deriving Repr, DecidableEq, Inhabited

namespace Edit

/-- The characters before the cursor, and those after it. -/
def halves (e : Edit) : List Char × List Char :=
  e.text.toList.splitAt e.cursor

/-- The field with this text before and after its cursor. -/
def ofHalves (e : Edit) (before after : List Char) : Edit :=
  { e with text := String.ofList (before ++ after), cursor := before.length }

/-- The field with its cursor no further than the end of its text. -/
def clampCursor (e : Edit) : Edit :=
  { e with cursor := min e.cursor e.text.length }

def insert (e : Edit) (c : Char) : Edit :=
  e.ofHalves (e.halves.1 ++ [c]) e.halves.2

/-- What a field with a valid cursor does with a key, if it uses it. -/
def press? (e : Edit) (key : Key) : Option Edit :=
  match key.code, e.halves with
  | .char c, _ => if key.control || key.alt then none else some (e.insert c)
  | .enter, _ => if e.multiline then some (e.insert '\n') else none
  | .backspace, (before, after) =>
    if before.isEmpty then none else some (e.ofHalves before.dropLast after)
  | .delete, (before, _ :: after) => some (e.ofHalves before after)
  | .left, (before, _) => if before.isEmpty then none else some { e with cursor := e.cursor - 1 }
  | .right, (_, _ :: _) => some { e with cursor := e.cursor + 1 }
  | .home, _ => some { e with cursor := 0 }
  | .toEnd, _ => some { e with cursor := e.text.length }
  | _, _ => none

end Edit

namespace Arrangement

/-- The direction in which a key moves the focus of a container. -/
def direction? (a : Arrangement) (code : KeyCode) : Option Direction :=
  match a, code with
  | pile, .down | list .., .down | columns .., .right | grid .., .right => some .forward
  | pile, .up | list .., .up | columns .., .left | grid .., .left => some .backward
  | _, _ => none

end Arrangement

namespace Tree

/-- Offers a key to one container. -/
def navigate (t : Tree) (id : Nat) (key : Key) : Tree × KeyOutcome :=
  match t.widget id with
  | .container arrangement .. =>
    match (arrangement.direction? key.code).bind (t.moveFocus? id) with
    | some moved => (moved, .consumed)
    | none => (t, .unhandled)
  | _ => (t, .unhandled)

/-- Offers a key to one leaf. -/
def pressLeaf (t : Tree) (id : Nat) (key : Key) : Tree × KeyOutcome :=
  match t.widget id with
  | .edit field =>
    let field := field.clampCursor
    match field.press? key with
    | some changed => (t.modify id fun _ => .edit changed, .consumed)
    | none => (t.modify id fun _ => .edit field, .unhandled)
  | _ =>
    if key.code = .enter || key.code = .char ' ' then
      match t.activate? id with
      | some pressed => (pressed, .pressed id)
      | none => (t, .unhandled)
    else (t, .unhandled)

/-- Offers a key to the widget that the focus leads to on one of this many levels, and then to the
containers around it, up to `id`. -/
def keypressWithin (t : Tree) (key : Key) : Nat → Nat → Tree × KeyOutcome
  | 0, _ => (t, .unhandled)
  | levels + 1, id =>
    match t.focusedChild? id with
    | some child =>
      let (below, outcome) := t.keypressWithin key levels child
      if outcome = .unhandled then below.navigate id key else (below, outcome)
    | none => if (t.widget id).isContainer then t.navigate id key else t.pressLeaf id key

/-- Offers a key to the focused widget and then to the containers around it, up to `id`. -/
def keypress (t : Tree) (id : Nat) (key : Key) : Tree × KeyOutcome :=
  t.keypressWithin key t.size id

end Tree

end ScreenForm
