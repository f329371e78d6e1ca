import ScreenForm.Strings
import ScreenForm.Widget.Tree

/-!
# Forms

A form is what a description describes: a tree of widgets with a body, perhaps a
header and a footer, the names of its widgets, and the palette and the strings
that it was made with.
-/

namespace ScreenForm

structure Form where
  tree : Tree
  names : NameTable
  strings : StringTable
  palette : Palette
  header : Option Nat
  footer : Option Nat
  /-- The list of the widgets that stand in no container. -/
  body : Nat
  /-- The body, or the wrapper of its style. -/
  root : Nat
  deriving Repr, DecidableEq, Inhabited

namespace Form

def widget (f : Form) (name : String) : Except RuntimeError Nat :=
  f.names.get name

def string (f : Form) (key : String) : Except RuntimeError String :=
  f.strings.get key

/-- What a property of the widget of this name gives, or the error that it has none. -/
def property {α : Type} (f : Form) (name : String) (read : Widget → Option α)
    (missing : String → RuntimeError) : Except RuntimeError α := do
  match read (f.tree.widget (← f.widget name)) with
  | some a => return a
  | none => throw (missing name)

def text (f : Form) (name : String) : Except RuntimeError String :=
  f.property name Widget.text? .notText

def editText (f : Form) (name : String) : Except RuntimeError String :=
  f.property name Widget.editText? .notEditable

def label (f : Form) (name : String) : Except RuntimeError String :=
  f.property name Widget.label? .notText

def checked (f : Form) (name : String) : Except RuntimeError Bool :=
  f.property name Widget.checked? .notText

/-- Changes the widget of this name, if it is of a kind that can be changed so. -/
def change (f : Form) (name : String) (write : Widget → Option Widget)
    (missing : String → RuntimeError) : Except RuntimeError Form := do
  let id ← f.widget name
  match write (f.tree.widget id) with
  | some w => return { f with tree := f.tree.modify id fun _ => w }
  | none => throw (missing name)

/-- Replaces the text of a text, the edited text of an edit or the caption of a divider. -/
def setText (f : Form) (name text : String) : Except RuntimeError Form :=
  f.change name (·.setText? text) .notText

def setEditText (f : Form) (name text : String) : Except RuntimeError Form :=
  f.change name (·.setEditText? text) .notEditable

/-- All bindings of the form, in the order of its widgets. -/
def bindings (f : Form) : List (EventKind × String) :=
  f.tree.nodes.toList.flatMap (·.about.events.toList)

end Form

end ScreenForm
