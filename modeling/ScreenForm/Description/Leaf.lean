import ScreenForm.Description.Line
import ScreenForm.Screen.Area
import ScreenForm.Text.Wrap

/-!
# Widgets from lines

The widget that the data of a line describe. `Leaf` is one without children, and
`ContainerKind.arrangement` what the arguments of a container make of it.
-/

namespace ScreenForm.Description

/-- A widget with the attributes of its line. -/
structure Leaf where
  widget : Widget
  attributes : Attributes
  deriving Repr, DecidableEq, Inhabited

/-- Reads all arguments: those that are not taken are refused. -/
def Arguments.readAll {α : Type} (args : Arguments) (widget : String) (line : Nat)
    (reader : ArgumentReader α) : Except SyntaxError α :=
  let whole : ArgumentReader α := do
    let a ← reader
    ArgumentReader.finish widget line
    return a
  (whole.run.run args).1

/-- The alignment that the arguments ask for. -/
def takeAlign (default : Align) (widget : String) (line : Nat) : ArgumentReader Align := do
  match ← ArgumentReader.takeText? "align" widget line with
  | none => return default
  | some name =>
    match Align.ofName? name with
    | some align => return align
    | none => throw (.invalidArgument "align" widget "left, center or right" line)

/-- What separates a text from its attributes. -/
def textSeparator : List Char := "args:".toList

/-- The text between the brackets at the front, and what follows them. -/
def bracketed? (data : List Char) : Option (List Char × List Char) :=
  match Text.trimStart data with
  | '[' :: cs => Text.splitOnce ']' cs
  | _ => none

namespace Leaf

def text (line : Nat) (data : List Char) : Except SyntaxError Leaf := do
  let (text, rest) :=
    match Text.splitAtWord textSeparator data with
    | some (text, rest) => (Text.trimEnd text, rest)
    | none => (data, [])
  let (attributes, args) ← Attributes.parse rest line
  let align ← args.readAll "Text" line (takeAlign .left "Text" line)
  return ⟨.text (String.ofList text) align, attributes⟩

def button (line : Nat) (data : List Char) : Except SyntaxError Leaf := do
  match bracketed? data with
  | some (c :: label, rest) =>
    let (attributes, args) ← Attributes.parse rest line
    args.readAll "Button" line (pure ())
    return ⟨.button (String.ofList (c :: label)), attributes⟩
  | _ => throw (.malformedButton (String.ofList data) line)

def edit (line : Nat) (data : List Char) : Except SyntaxError Leaf := do
  let parts := (Text.splitOnce '[' data).bind fun r =>
    (Text.splitOnce ']' r.2).map fun s => (r.1, s.1, s.2)
  match parts with
  | none => throw (.malformedEdit (String.ofList data) line)
  | some (caption, text, rest) =>
    let (attributes, args) ← Attributes.parse rest line
    let multiline ← args.readAll "Edit" line (ArgumentReader.takeBool? "multiline" "Edit" line)
    return ⟨.edit (.ofText (String.ofList caption) (String.ofList text) (multiline.getD false)),
      attributes⟩

def checkBox (line : Nat) (data : List Char) : Except SyntaxError Leaf := do
  match bracketed? data with
  | none => throw (.malformedButton (String.ofList data) line)
  | some (label, rest) =>
    let (attributes, args) ← Attributes.parse rest line
    let checked ← args.readAll "CheckBox" line (ArgumentReader.takeBool? "state" "CheckBox" line)
    return ⟨.checkBox (String.ofList label) (checked.getD false), attributes⟩

def radioButton (line : Nat) (data : List Char) : Except SyntaxError Leaf := do
  match bracketed? data with
  | none => throw (.malformedButton (String.ofList data) line)
  | some (label, rest) =>
    let (attributes, args) ← Attributes.parse rest line
    let (group, checked) ← args.readAll "RadioButton" line do
      let group ← ArgumentReader.takeText? "group" "RadioButton" line
      let checked ← ArgumentReader.takeBool? "state" "RadioButton" line
      return (group, checked)
    return ⟨.radioButton (String.ofList label) (checked.getD false) group, attributes⟩

/-- A divider with its fill. -/
def dividerOf (line : Nat) (fill : Char) : ArgumentReader Widget := do
  let top ← ArgumentReader.takeNat? "top" "Divider" line
  let bottom ← ArgumentReader.takeNat? "bottom" "Divider" line
  return .divider fill "" (top.getD 0) (bottom.getD 0)

/-- The fill that the first positional argument gives. -/
def takeFill (line : Nat) : ArgumentReader Char := do
  match ← ArgumentReader.takePositional? with
  | none => return ' '
  | some literal =>
    match literal.asText?.bind (·.toList.head?) with
    | some fill => return fill
    | none => throw (.invalidArgument literal.written "Divider" "a fill character" line)

def divider (line : Nat) (data : List Char) : Except SyntaxError Leaf := do
  let (attributes, args) ← Attributes.parse data line
  let widget ← args.readAll "Divider" line do dividerOf line (← takeFill line)
  return ⟨widget, attributes⟩

/-- A divider in its short form, which takes no positional argument. -/
def rule (line : Nat) (fill : Char) (data : List Char) : Except SyntaxError Leaf := do
  let (attributes, args) ← Attributes.parse data line
  match args.positional with
  | extra :: _ => throw (.unsupportedArgument extra.written "Divider" line)
  | [] =>
    let widget ← args.readAll "Divider" line (dividerOf line fill)
    return ⟨widget, attributes⟩

end Leaf

/-- Columns that the cells of a grid have beyond the widest text in it. -/
def gridMargin : Nat := 4

/-- The arrangement that the arguments of a container ask for. `count` is the number of its
children, and `widest` the width of the widest text among them. -/
def ContainerKind.arrangement (kind : ContainerKind) (count widest line : Nat) :
    ArgumentReader Arrangement := do
  match kind with
  | pile => return .pile
  | columns =>
    let gap ← ArgumentReader.takeNat? "dividechars" kind.name line
    return .columns (List.replicate count (.weight 1)) (clampCells (gap.getD 0))
  | grid =>
    let cellWidth ← ArgumentReader.takeNat? "cell_width" kind.name line
    let columnGap ← ArgumentReader.takeNat? "h_sep" kind.name line
    let rowGap ← ArgumentReader.takeNat? "v_sep" kind.name line
    let align ← takeAlign .center kind.name line
    return .grid (clampCells (cellWidth.getD (widest + gridMargin))) (clampCells (columnGap.getD 1))
      (clampCells (rowGap.getD 1)) align
  | list =>
    let height ← ArgumentReader.takeNat? "height" kind.name line
    let border ← ArgumentReader.takeBool? "border" kind.name line
    return .list (height.map clampCells) (border.getD false)

end ScreenForm.Description
