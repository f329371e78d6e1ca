import ScreenForm.Toml.DateTime

/-!
# TOML values

The values of a TOML document. A table knows how it came about, since that
decides what may still be added to it.
-/

namespace ScreenForm.Toml

/-- How a table came about. -/
inductive Origin where
  /-- Written between braces; nothing can be added to it. -/
  | inline
  /-- Named on the way to the table of a header. -/
  | implied
  /-- Named by a key with dots. -/
  | dotted
  /-- Named by a header of its own. -/
  | header
  deriving Repr, DecidableEq, Inhabited

inductive Value where
  | string (s : String)
  | boolean (b : Bool)
  | integer (n : Int)
  /-- A double, or what is not a number. -/
  | float (x : Option Number.Double)
  | dateTime (d : DateTime)
  | array (items : List Value)
  | table (origin : Origin) (entries : List (String × Value))
  deriving Repr, Inhabited

/-- Keys and values in the order of the document. -/
abbrev Entries := List (String × Value)

namespace Entries

/-- Replaces the value of a key, or adds it at the end. -/
def put (entries : Entries) (key : String) (value : Value) : Entries :=
  if (entries.lookup key).isSome then
    entries.map fun e => if e.1 = key then (key, value) else e
  else entries ++ [(key, value)]

/-- Gives a new key its value, inside the tables that the dots of the key name. A table with a
header of its own cannot be reached so, nor can the last table be one that only a header named. -/
def assign (path : List String) (key : String) (value : Value) (entries : Entries) :
    Option Entries :=
  match path with
  | [] => if (entries.lookup key).isSome then none else some (entries ++ [(key, value)])
  | name :: rest =>
    match entries.lookup name with
    | none => (assign rest key value []).map fun inner => entries.put name (.table .dotted inner)
    | some (.table .dotted inner) =>
      (assign rest key value inner).map fun inner => entries.put name (.table .dotted inner)
    | some (.table .implied inner) =>
      if rest.isEmpty then none
      else (assign rest key value inner).map fun inner => entries.put name (.table .implied inner)
    | some _ => none

/-- Makes the table that a header names. It can have been implied before, but not more. -/
def openTable (path : List String) (entries : Entries) : Option Entries :=
  match path with
  | [] => some entries
  | [name] =>
    match entries.lookup name with
    | none => some (entries.put name (.table .header []))
    | some (.table .implied inner) => some (entries.put name (.table .header inner))
    | some _ => none
  | name :: rest =>
    match entries.lookup name with
    | none => (openTable rest []).map fun inner => entries.put name (.table .implied inner)
    | some (.table .inline _) => none
    | some (.table origin inner) =>
      (openTable rest inner).map fun inner => entries.put name (.table origin inner)
    | some _ => none

/-- Changes the table that a header has named. -/
def within (path : List String) (change : Entries → Option Entries) (entries : Entries) :
    Option Entries :=
  match path with
  | [] => change entries
  | name :: rest =>
    match entries.lookup name with
    | some (.table origin inner) =>
      (within rest change inner).map fun inner => entries.put name (.table origin inner)
    | _ => none

end Entries

end ScreenForm.Toml
