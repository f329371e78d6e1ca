import ScreenForm.Error
import ScreenForm.Text.Split

/-!
# Tables of names

`StringTable` holds the texts that a description refers to by key, and
`StringTable.substitute` writes them into a text. `NameTable` holds the widgets
that have a name. Neither table takes a name twice.
-/

namespace ScreenForm

structure StringTable where
  /-- Keys and texts, in the order of their definition. -/
  entries : List (String × String) := []
  deriving Repr, DecidableEq, Inhabited

namespace StringTable

def contains (t : StringTable) (key : String) : Bool :=
  (t.entries.lookup key).isSome

def size (t : StringTable) : Nat :=
  t.entries.length

def define (t : StringTable) (key text : String) : Except RuntimeError StringTable :=
  if t.contains key then .error (.duplicateString key) else .ok ⟨t.entries ++ [(key, text)]⟩

def get (t : StringTable) (key : String) : Except RuntimeError String :=
  match t.entries.lookup key with
  | some text => .ok text
  | none => .error (.undefinedString key)

def ofList (pairs : List (String × String)) : Except RuntimeError StringTable :=
  pairs.foldlM (fun t pair => t.define pair.1 pair.2) {}

/-- One pass from left to right: `$$` becomes `$`, and a key between `${` and the next `}` becomes
its text, which is not read again. Any other `$` is copied, and so is all that follows a `${`
without an end. -/
def substituteChars (t : StringTable) : List Char → Except RuntimeError (List Char)
  | [] => .ok []
  | '$' :: '$' :: cs => (t.substituteChars cs).map ('$' :: ·)
  | '$' :: '\x7b' :: cs =>
    match h : Text.splitOnce '\x7d' cs with
    | none => .ok ('$' :: '\x7b' :: cs)
    | some (key, rest) => do
      have := Text.length_of_splitOnce h
      let text ← t.get (String.ofList key)
      let rest ← t.substituteChars rest
      return text.toList ++ rest
  | c :: cs => (t.substituteChars cs).map (c :: ·)
termination_by cs => cs.length

def substitute (t : StringTable) (text : String) : Except RuntimeError String :=
  (t.substituteChars text.toList).map String.ofList

end StringTable

structure NameTable where
  /-- Names and widgets, in the order of their registration. -/
  entries : List (String × Nat) := []
  deriving Repr, DecidableEq, Inhabited

namespace NameTable

def contains (t : NameTable) (name : String) : Bool :=
  (t.entries.lookup name).isSome

def size (t : NameTable) : Nat :=
  t.entries.length

def register (t : NameTable) (name : String) (widget : Nat) : Except RuntimeError NameTable :=
  if t.contains name then .error (.duplicateId name) else .ok ⟨t.entries ++ [(name, widget)]⟩

def get (t : NameTable) (name : String) : Except RuntimeError Nat :=
  match t.entries.lookup name with
  | some widget => .ok widget
  | none => .error (.undefinedId name)

/-- The names in ascending order of their characters. -/
def names (t : NameTable) : List String :=
  (t.entries.map (·.1)).mergeSort (· ≤ ·)

end NameTable

end ScreenForm
