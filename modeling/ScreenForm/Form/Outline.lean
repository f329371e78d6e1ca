import ScreenForm.Form.Basic

/-!
# Outlines

The outline of a form has a line for each widget, indented by its depth, with
its name, its text or label, and its bindings.
-/

namespace ScreenForm

/-- The text of a widget in an outline. -/
def Widget.summary : Widget → String
  | wrapper (.styled _ _ names) _ => (names.normal.map (" @" ++ ·)).getD ""
  | w =>
    match w.label?, w.text? with
    | some label, _ => " [" ++ label ++ "]"
    | none, some content => if content.isEmpty then "" else " " ++ Text.quoted content
    | none, none => ""

/-- The line of a widget in an outline. -/
def Node.outline (n : Node) (depth : Nat) : String :=
  String.ofList (List.replicate (2 * depth) ' ') ++ n.widget.kindName ++
    ((n.about.id.map (" #" ++ ·)).getD "") ++ n.widget.summary ++
    String.join (n.about.events.toList.map fun e => " &" ++ e.1.name ++ "=" ++ e.2) ++ "\n"

namespace Tree

/-- The lines of a widget and of what is below it on this many levels, when the widget itself is
this deep. -/
def outlineWithin (t : Tree) : Nat → Nat → Nat → List String
  | 0, _, _ => []
  | levels + 1, depth, id =>
    (t.node id).outline depth :: (t.children id).flatMap (t.outlineWithin levels (depth + 1))

/-- The lines of a widget and of all that is below it. -/
def outline (t : Tree) (id : Nat) : List String :=
  t.outlineWithin t.size 0 id

end Tree

namespace Form

/-- The lines of the header, of the body and of the footer. -/
def outlineLines (f : Form) : List String :=
  (f.header.map f.tree.outline).getD [] ++ f.tree.outline f.root ++
    (f.footer.map f.tree.outline).getD []

def outline (f : Form) : String :=
  String.join f.outlineLines

end Form

end ScreenForm
