import ScreenForm.Toml.Text
import ScreenForm.Toml.Value

/-!
# TOML documents

A document is a list of assignments, under headers that name the table they
belong to. `Document.parse` reads all of them but those with headers of arrays
of tables.
-/

namespace ScreenForm.Toml

/-- Characters of the words that values other than strings, arrays and tables consist of. -/
def isWordChar (c : Char) : Bool :=
  c.isAlphanum || c = '_' || c = '+' || c = '-' || c = '.' || c = ':'

/-- A word and the rest. A digit after a space belongs to it, since a time can so follow a date. -/
def word (cs : List Char) : List Char × List Char :=
  let (first, rest) := cs.span isWordChar
  match rest with
  | ' ' :: c :: rest =>
    if c.isDigit then
      let (second, rest) := (c :: rest).span isWordChar
      (first ++ ' ' :: second, rest)
    else (first, ' ' :: c :: rest)
  | rest => (first, rest)

/-- The value that a word stands for. -/
def Value.ofWord? (cs : List Char) : Option Value :=
  if cs = ['t', 'r', 'u', 'e'] then some (boolean true)
  else if cs = ['f', 'a', 'l', 's', 'e'] then some (boolean false)
  else
    match DateTime.ofWord? cs, integer? cs with
    | some d, _ => some (dateTime d)
    | none, some n => some (integer n)
    | none, none => (float? cs).map float

mutual

/-- A value, in which arrays and tables are nested on at most this many levels. -/
def value : Nat → Nat → List Char → Option (Value × List Char)
  | 0, _, _ => none
  | fuel + 1, levels, cs =>
    match cs, levels with
    | '[' :: rest, levels + 1 => do
      let (items, rest) ← arrayItems fuel levels rest
      return (.array items, rest)
    | '\x7b' :: rest, levels + 1 =>
      match skipSpaces rest with
      | '\x7d' :: rest => some (.table .inline [], rest)
      | rest => do
        let (entries, rest) ← inlineEntries fuel levels [] rest
        return (.table .inline entries, rest)
    | '"' :: _, _ | '\'' :: _, _ => do
      let (s, rest) ← text cs
      return (.string s, rest)
    | cs, _ => do
      let (word, rest) := word cs
      return (← Value.ofWord? word, rest)

/-- The items of an array up to its end. The last one can have a comma after it. -/
def arrayItems : Nat → Nat → List Char → Option (List Value × List Char)
  | 0, _, _ => none
  | fuel + 1, levels, cs =>
    match skipLines cs.length cs with
    | ']' :: rest => some ([], rest)
    | cs => do
      let (item, rest) ← value fuel levels cs
      match skipLines rest.length rest with
      | ',' :: rest => do
        let (items, rest) ← arrayItems fuel levels rest
        return (item :: items, rest)
      | ']' :: rest => return ([item], rest)
      | _ => none

/-- The entries of an inline table up to its end. -/
def inlineEntries : Nat → Nat → Entries → List Char → Option (Entries × List Char)
  | 0, _, _, _ => none
  | fuel + 1, levels, entries, cs => do
    let (path, rest) ← keyPath cs
    match rest with
    | '=' :: rest => do
      let (v, rest) ← value fuel levels (skipSpaces rest)
      let entries ← entries.assign path.dropLast (path.getLastD "") v
      match skipSpaces rest with
      | ',' :: rest => inlineEntries fuel levels entries (skipSpaces rest)
      | '\x7d' :: rest => return (entries, rest)
      | _ => none
    | _ => none

end

/-- What has been read of a document: its entries, and the header that is in force. -/
structure Document where
  entries : Entries := []
  header : List String := []

namespace Document

/-- An assignment. -/
def assignment (d : Document) (cs : List Char) : Option (Document × List Char) := do
  let (path, rest) ← keyPath cs
  match rest with
  | '=' :: rest => do
    let (v, rest) ← value (rest.length + 1) (levelLimit - 1) (skipSpaces rest)
    let entries ← d.entries.within d.header (Entries.assign path.dropLast (path.getLastD "") v)
    return ({ d with entries }, rest)
  | _ => none

/-- A header whose bracket has been read. -/
def headerLine (d : Document) (cs : List Char) : Option (Document × List Char) := do
  let (path, rest) ← keyPath cs
  match rest with
  | ']' :: rest => do
    let entries ← d.entries.openTable path
    return ({ entries, header := path }, rest)
  | _ => none

/-- One line, or several if its value takes several. -/
def line (d : Document) (cs : List Char) : Option (Document × List Char) :=
  match skipSpaces cs with
  | [] => some (d, [])
  | '#' :: _ | '\n' :: _ | '\r' :: _ => some (d, cs)
  | '[' :: rest => d.headerLine rest
  | rest => d.assignment rest

/-- The lines of a text, at most `fuel`. -/
def lines (d : Document) : Nat → List Char → Option Document
  | _, [] => some d
  | 0, _ => none
  | fuel + 1, cs => do
    let (d, rest) ← d.line cs
    lines d fuel (← endLine? rest)

/-- The entries of a document. A byte order mark in front of it does not count. -/
def parse (source : String) : Option Entries :=
  let cs := source.toList
  let cs := if cs.head? = some '\ufeff' then cs.tail else cs
  (({} : Document).lines (cs.length + 1) cs).map (·.entries)

end Document

end ScreenForm.Toml
