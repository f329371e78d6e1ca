import ScreenForm.Description.Leaf
import ScreenForm.Form.Basic

/-!
# Forms from descriptions

A description is read line by line into an `Assembly`. A widget joins the
children of the innermost open container. The line that opens a container puts
the children so far aside, and the one that closes it makes the container of
what has come since.
-/

namespace ScreenForm

open Description

/-- A container whose end has not come yet. -/
structure OpenContainer where
  kind : ContainerKind
  /-- The widgets before it, in the container around it. -/
  before : Array Nat
  attributes : Attributes
  arguments : Arguments
  line : Nat
  deriving Repr, DecidableEq, Inhabited

/-- A form in the making. -/
structure Assembly where
  palette : Palette
  strings : StringTable
  tree : Tree := {}
  names : NameTable := {}
  /-- The children so far of the innermost open container. -/
  content : Array Nat := #[]
  /-- The open containers, the innermost first. -/
  opened : List OpenContainer := []
  header : Option Nat := none
  footer : Option Nat := none
  deriving Repr, DecidableEq, Inhabited

namespace Assembly

/-- The style names of a widget: its own one, those on its line, and the one of its class. -/
def styleNames (id : Option String) (styles : List String) (className : String) : List String :=
  (id.map ("#" ++ ·)).toList ++ styles ++ [className]

/-- Wraps a widget in its style. -/
def applyStyle (a : Assembly) (id : Nat) (names : List String) : Assembly × Nat :=
  let (tree, outer) := a.tree.wrapStyle id a.palette names
  ({ a with tree }, outer)

/-- Fails if the widget cannot produce an event that is bound. -/
def checkBindings (w : Widget) (events : Bindings) (line : Nat) : Except RuntimeError Unit :=
  match events.toList.find? (!·.1.accepts w) with
  | some (kind, _) => .error (.bindingMismatch kind w.kindName line)
  | none => .ok ()

/-- Fails if a key of the footer is not defined. -/
def checkKeys (strings : StringTable) (attributes : Attributes) : Except RuntimeError Unit :=
  (attributes.info.toList ++ attributes.tooltip.toList).forM fun key => do
    let _ ← strings.get key

def registerName (names : NameTable) (id : Option String) (widget : Nat) :
    Except RuntimeError NameTable :=
  match id with
  | some name => names.register name widget
  | none => .ok names

/-- Adds a widget with its attributes, and gives the number of the wrapper around it, or its own. -/
def addWidget (a : Assembly) (w : Widget) (attributes : Attributes) (className : String)
    (line : Nat) : Except RuntimeError (Assembly × Nat) := do
  checkBindings w attributes.events line
  checkKeys a.strings attributes
  let about : Meta :=
    { id := attributes.id
      info := attributes.info
      tooltip := attributes.tooltip
      events := attributes.events
      line := line }
  let id := a.tree.size
  let names ← registerName a.names attributes.id id
  let added := { a with tree := a.tree.add w about, names := names }
  return added.applyStyle id (styleNames attributes.id attributes.styles className)

/-- Puts a widget behind the children of the innermost container. -/
def place (r : Assembly × Nat) : Assembly :=
  { r.1 with content := r.1.content.push r.2 }

def addLeaf (a : Assembly) (leaf : Leaf) (line : Nat) : Except RuntimeError Assembly :=
  (a.addWidget leaf.widget leaf.attributes leaf.widget.kindName line).map place

/-- Adds a radio button. If it is checked, the others of its group are not any more. -/
def addRadioButton (a : Assembly) (leaf : Leaf) (line : Nat) : Except RuntimeError Assembly := do
  let id := a.tree.size
  let added ← a.addLeaf leaf line
  match leaf.widget with
  | .radioButton _ true (some group) =>
    return { added with tree := added.tree.clearGroup id group }
  | _ => return added

/-- Adds an empty text for a blank line. -/
def addBlank (a : Assembly) (line : Nat) : Assembly :=
  let id := a.tree.size
  { a with
    tree := a.tree.add (.text "" .left) { line := line }
    content := a.content.push id }

def addHeader (a : Assembly) (line : Nat) (data : List Char) : Except FormError Assembly := do
  if a.header.isSome then throw (.syntaxError (.duplicateHeader line))
  let leaf ← liftError (Leaf.text line data)
  let (added, id) ← liftError (a.addWidget leaf.widget leaf.attributes "header" line)
  return { added with header := some id }

def addFooter (a : Assembly) (line : Nat) (data : List Char) : Except FormError Assembly := do
  if a.footer.isSome then throw (.syntaxError (.duplicateFooter line))
  let leaf ← liftError (Leaf.text line data)
  let (added, id) ← liftError (a.addWidget leaf.widget leaf.attributes "footer" line)
  return { added with footer := some id }

def openContainer (a : Assembly) (kind : ContainerKind) (line : Nat) (data : List Char) :
    Except SyntaxError Assembly := do
  let (attributes, arguments) ← Attributes.parse data line
  return { a with
    content := #[]
    opened := ⟨kind, a.content, attributes, arguments, line⟩ :: a.opened }

/-- The width of the widest text or label among some widgets. -/
def widestText (t : Tree) (ids : List Nat) : Nat :=
  (ids.map fun id =>
    let w := t.widget (t.unwrap id)
    max ((w.text?.map fun s => Text.displayWidth s.toList).getD 0)
      ((w.label?.map fun s => Text.displayWidth s.toList).getD 0)).foldl max 0

/-- Makes the innermost open container. What is wrong with its arguments counts for the line that
opened it. -/
def closeContainer (a : Assembly) (line : Nat) (data : List Char) : Except FormError Assembly := do
  if !data.isEmpty then throw (.syntaxError (.endWithArguments (String.ofList data) line))
  match a.opened with
  | [] => throw (.syntaxError (.unbalancedEnd line))
  | o :: opened =>
    let children := a.content.toList
    let arrangement ← liftError (o.arguments.readAll o.kind.name o.line
      (o.kind.arrangement children.length (widestText a.tree children) o.line))
    let w : Widget := .container arrangement children (a.tree.firstSelectable children)
    let outer := { a with content := o.before, opened := opened }
    liftError ((outer.addWidget w o.attributes o.kind.name o.line).map place)

/-- Adds what a leaf line gives. -/
def addRead (a : Assembly) (leaf : Except SyntaxError Leaf) (line : Nat) :
    Except FormError Assembly := do
  liftError (a.addLeaf (← liftError leaf) line)

def addCommand (a : Assembly) (line : Nat) (opcode : Opcode) (data : List Char) :
    Except FormError Assembly :=
  match opcode with
  | .header => a.addHeader line data
  | .footer => a.addFooter line data
  | .text => a.addRead (Leaf.text line data) line
  | .button => a.addRead (Leaf.button line data) line
  | .edit => a.addRead (Leaf.edit line data) line
  | .checkBox => a.addRead (Leaf.checkBox line data) line
  | .radioButton => do
    liftError (a.addRadioButton (← liftError (Leaf.radioButton line data)) line)
  | .divider => a.addRead (Leaf.divider line data) line
  | .opening kind => liftError (a.openContainer kind line data)
  | .closing => a.closeContainer line data

/-- Adds what a line describes. -/
def addLine (a : Assembly) (numbered : List Char × Nat) : Except FormError Assembly := do
  let line := numbered.2
  match ← liftError (Line.parse line numbered.1) with
  | .comment => return a
  | .blank => return a.addBlank line
  | .command opcode data => a.addCommand line opcode data
  | .rule fill data => a.addRead (Leaf.rule line fill data) line

/-- Makes the form, once all containers are closed. -/
def finish (a : Assembly) : Except FormError Form :=
  if !a.opened.isEmpty then .error (.syntaxError (.unclosedContainer a.opened.length))
  else
    let body := a.tree.size
    let children := a.content.toList
    let list : Widget :=
      .container (.list none false) children (a.tree.firstSelectable children)
    let (whole, root) := { a with tree := a.tree.add list {} }.applyStyle body ["Frame"]
    .ok
      { tree := whole.tree
        names := whole.names
        strings := whole.strings
        palette := whole.palette
        header := whole.header
        footer := whole.footer
        body := body
        root := root }

end Assembly

namespace Form

/-- The lines of a description, counted from one. -/
def numberedLines (cs : List Char) : List (List Char × Nat) :=
  (Text.splitOn (· = '\n') cs).zipIdx 1

/-- The form that a description describes, after the strings are written into it. -/
def parse (description : String) (palette : Palette) (strings : StringTable) :
    Except FormError Form := do
  let text ← liftError (strings.substituteChars description.toList)
  let assembly ← (numberedLines text).foldlM Assembly.addLine { palette, strings }
  assembly.finish

end Form

end ScreenForm
