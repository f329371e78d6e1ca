import ScreenForm.Error
import ScreenForm.Style.Code
import ScreenForm.Text.Split

/-!
# Palettes

A palette text has one rule on each line, `name : foreground, background, font`.
A `Layer` holds the rules of one text, and a `Palette` is a stack of layers: a
name is looked up from the top layer down, so that a layer overrides the ones
below it rule by rule. A rule whose name ends in `*` is the focused variant of
the rule without it.
-/

namespace ScreenForm

structure Rule where
  name : String
  foreground : Code
  background : Code
  font : Code
  deriving Repr, DecidableEq, Inhabited

def Rule.style (r : Rule) : Style :=
  r.font.asFont (r.background.asBackground (r.foreground.asForeground .plain))

/-- The rules of one palette text, each name once. -/
structure Layer where
  rules : List Rule := []
  deriving Repr, DecidableEq, Inhabited

namespace Layer

def find? (l : Layer) (name : String) : Option Rule :=
  l.rules.find? (·.name = name)

/-- Adds a rule in place of an earlier one of the same name. -/
def insert (l : Layer) (r : Rule) : Layer :=
  ⟨l.rules.filter (·.name ≠ r.name) ++ [r]⟩

def size (l : Layer) : Nat :=
  l.rules.length

theorem find?_insert (l : Layer) (r : Rule) (name : String) :
    (l.insert r).find? name = if r.name = name then some r else l.find? name := by
  unfold insert find?
  rw [List.find?_append]
  by_cases h : r.name = name
  · have : (l.rules.filter (·.name ≠ r.name)).find? (·.name = name) = none := by
      simp [List.find?_eq_none, h]
    rw [this]
    simp [h]
  · have : (l.rules.filter (·.name ≠ r.name)).find? (·.name = name) =
        l.rules.find? (·.name = name) := by
      rw [List.find?_filter]
      congr 1
      funext s
      by_cases hs : s.name = name
      · simp [hs, Ne.symm h]
      · simp [hs]
    rw [this]
    simp [h]

/-- The codes of a rule, between commas and white space. -/
def codes (line : Nat) (fields : List Char) : Except StyleError (List Code) :=
  (Text.wordsBy (fun c => c = ',' || Text.isBlank c) fields).mapM fun word =>
    match Code.ofName? (String.ofList word) with
    | some code => .ok code
    | none => .error (.unknownCode (String.ofList word) line)

/-- The rule on a trimmed line that is not empty. -/
def ruleOf (line : Nat) (cs : List Char) : Except StyleError Rule :=
  match Text.splitOnce ':' cs with
  | none => .error (.malformedRule (String.ofList cs) line)
  | some (name, fields) =>
    let name := Text.trim name
    if name.isEmpty then .error (.malformedRule (String.ofList cs) line)
    else do
      match ← codes line fields with
      | [foreground, background, font] => .ok ⟨String.ofList name, foreground, background, font⟩
      | found => .error (.fieldCount found.length line)

/-- A line of palette text with its tabs turned into spaces and its margins removed. -/
def normalized (raw : List Char) : List Char :=
  Text.trim (raw.map fun c => if c = '\t' then ' ' else c)

/-- Reads one line of palette text. A blank line adds nothing. -/
def addLine (l : Layer) (numbered : List Char × Nat) : Except StyleError Layer :=
  let cs := normalized numbered.1
  if cs.isEmpty then .ok l else (ruleOf numbered.2 cs).map l.insert

/-- The rules of a palette text. The first bad line is the error. -/
def parse (text : String) : Except StyleError Layer :=
  ((Text.lines text.toList).zipIdx 1).foldlM addLine {}

end Layer

/-- Layers of rules, the top one first. -/
structure Palette where
  layers : List Layer := []
  deriving Repr, DecidableEq, Inhabited

/-- The styles of a widget that is off the path of the focus, and on it. -/
structure StyleNames where
  normal : Option String
  focus : Option String
  deriving Repr, DecidableEq, Inhabited

namespace Palette

/-- What a style name ends in that is meant for the focused widget. -/
def focusMark : String := "*"

/-- The palette with a layer on top, whose rules go before those below. -/
def addLayer (below : Palette) (top : Layer) : Palette :=
  ⟨top :: below.layers⟩

def ofLayer (l : Layer) : Palette :=
  ⟨[l]⟩

def find? (p : Palette) (name : String) : Option Rule :=
  p.layers.findSome? (·.find? name)

def contains (p : Palette) (name : String) : Bool :=
  (p.find? name).isSome

/-- The number of rules in the top layer. -/
def topSize (p : Palette) : Nat :=
  (p.layers.headD {}).size

/-- The first of the names that has a rule. -/
def firstKnown? (p : Palette) (names : List String) : Option String :=
  names.find? p.contains

/-- The styles that the names lead to. Without a focused variant, the focused style is the
normal one. -/
def resolve (p : Palette) (names : List String) : Option StyleNames :=
  let normal := p.firstKnown? names
  let focus := (p.firstKnown? (names.map (· ++ focusMark))).or normal
  if normal.isNone && focus.isNone then none else some ⟨normal, focus⟩

/-- The style of a name, which is plain when there is no rule for it. -/
def style (p : Palette) (name : Option String) : Style :=
  ((name.bind p.find?).map Rule.style).getD .plain

theorem find?_addLayer (below : Palette) (top : Layer) (name : String) :
    (below.addLayer top).find? name = (top.find? name).or (below.find? name) := by
  simp only [addLayer, find?, List.findSome?_cons]
  cases top.find? name <;> rfl

end Palette

end ScreenForm
