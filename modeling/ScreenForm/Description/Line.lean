import ScreenForm.Description.Marker
import ScreenForm.Widget.Basic

/-!
# Lines of a description

A line starts with an opcode of three characters, which says what it describes;
the data after it belong to that. A line that starts with `#` is a comment, and
a blank one is an empty text. Three equal characters are the short form of a
divider that is filled with them.
-/

namespace ScreenForm.Description

inductive ContainerKind where
  | pile
  | columns
  | grid
  | list
  deriving Repr, DecidableEq, Inhabited

def ContainerKind.name : ContainerKind → String
  | pile => "Pile"
  | columns => "Columns"
  | grid => "GridFlow"
  | list => "ListBox"

/-- What a line can describe. -/
inductive Opcode where
  | header
  | footer
  | text
  | button
  | edit
  | checkBox
  | radioButton
  | divider
  | opening (kind : ContainerKind)
  /-- The end of the innermost container. -/
  | closing
  deriving Repr, DecidableEq, Inhabited

def Opcode.table : List (String × Opcode) :=
  [("Hdr", header), ("Ftr", footer), ("Txt", text), ("Btn", button), ("Edt", edit),
    ("Chc", checkBox), ("Rdo", radioButton), ("Dvd", divider), ("Ple", opening .pile),
    ("Col", opening .columns), ("GFl", opening .grid), ("Box", opening .list), ("End", closing)]

def Opcode.ofName? (name : List Char) : Option Opcode :=
  table.lookup (String.ofList name)

inductive Line where
  | comment
  | blank
  | command (opcode : Opcode) (data : List Char)
  /-- The short form of a divider. -/
  | rule (fill : Char) (data : List Char)
  deriving Repr, DecidableEq, Inhabited

namespace Line

/-- Reads a line without its margins. -/
def ofTrimmed (number : Nat) (cs : List Char) : Except SyntaxError Line :=
  match cs with
  | [] => .ok blank
  | '#' :: _ => .ok comment
  | a :: b :: c :: data =>
    let data := Text.trim data
    match Opcode.ofName? [a, b, c] with
    | some opcode => .ok (command opcode data)
    | none =>
      if b = a && c = a then .ok (rule a (data.dropWhile (· = a)))
      else .error (.unrecognizedWidget (String.ofList [a, b, c]) number)
  | cs => .error (.unrecognizedWidget (String.ofList cs) number)

def parse (number : Nat) (raw : List Char) : Except SyntaxError Line :=
  ofTrimmed number (Text.trim raw)

end Line

end ScreenForm.Description
