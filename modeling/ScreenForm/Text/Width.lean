import ScreenForm.Text.Ligature
import ScreenForm.Text.Table.Emoji

/-!
# Display width

How many columns of the screen a text takes. It is the sum over its characters,
except that several characters can make one picture or one ligature. Both show
at their end, so a text is measured from its end: `Ahead` is what the characters
after a place hold out to the one before it, and `Ahead.step` takes that one in.
-/

namespace ScreenForm.Text

def isSkinTone (c : Char) : Bool :=
  0x1f3fb ≤ c.toNat && c.toNat ≤ 0x1f3ff

/-- Letters of which two make a flag. -/
def isRegional (c : Char) : Bool :=
  0x1f1e6 ≤ c.toNat && c.toNat ≤ 0x1f1ff

/-- A presentation that a selector asks for, of the character before it. -/
inductive Presentation where
  | text
  | picture
  /-- A quotation mark as wide as a letter of East Asia. -/
  | fullwidth
  deriving Repr, DecidableEq

namespace Presentation

/-- The presentation that a selector asks for. The earlier edition has none for quotation marks. -/
def ofSelector? (e : Edition) (c : Char) : Option Presentation :=
  if c = '\ufe0e' then some text
  else if c = '\ufe0f' then some picture
  else if c = '\ufe01' && e = .layout then some fullwidth
  else none

/-- Whether a character can be drawn so, and takes other columns when it is. -/
def applies (p : Presentation) (c : Char) : Bool :=
  match p with
  | text => Table.selectable.contains c && !(0x1f200 ≤ c.toNat && c.toNat ≤ 0x1f2ff)
  | picture => Table.selectable.contains c || Table.drawable.contains c
  | fullwidth => c = '\u2018' || c = '\u2019' || c = '\u201c' || c = '\u201d'

end Presentation

/-- A picture, a line end or a ligature of which the end has been read. -/
inductive Opening where
  | nothing
  | lineFeed
  | ligature (l : Ligature) (joined : Bool)
  | picture
  | skinTone
  /-- Regional letters: one, or more. -/
  | letters (several : Bool)
  /-- A picture after a joiner, which binds it to the picture before. -/
  | bound
  /-- The mark of a keycap before a joiner and a picture. -/
  | keycap
  /-- Regional letters before a joiner and a picture. -/
  | boundLetters (count : Nat)
  /-- The last tags of a flag before a joiner and a picture, letters after digits. -/
  | tags (written digits : Nat)
  deriving Repr, DecidableEq

namespace Opening

/-- Characters drawn as a picture by themselves. -/
def isPicture (e : Edition) (c : Char) : Bool :=
  Table.pictured.contains c && (e = .layout || !Table.laterPictured.contains c)

/-- What a character opens by itself. -/
def ofLast (e : Edition) (c : Char) : Opening :=
  if isSkinTone c then skinTone
  else if isRegional c then letters false
  else if isPicture e c then picture
  else match Ligature.ofLast? e c with
    | some l => ligature l false
    | none => nothing

/-- The columns that a character adds to what it continues, and what is then open. -/
def continue? (o : Opening) (e : Edition) (c : Char) : Option (Int × Opening) :=
  match o with
  | nothing | lineFeed | keycap => none
  | ligature l joined =>
    if l.passes e c then some (0, ligature l (joined || c = joiner))
    else (l.continue? joined c).map fun (columns, rest) =>
      (columns, rest.elim nothing (ligature · joined))
  | picture => if c = joiner then some (0, bound) else none
  | skinTone =>
    if Table.modifiable.contains c then some (0, picture)
    else if c = joiner then some (0, bound)
    else none
  | letters several =>
    if isRegional c then some (1, letters true)
    else if several && c = joiner then some (0, bound)
    else none
  | bound =>
    if c = '\u20e3' then some (0, keycap)
    else if isRegional c then some (1, boundLetters 1)
    else if isSkinTone c then some (0, skinTone)
    else if c.toNat = 0xe007f then some (0, tags 0 0)
    else if isPicture e c then some (0, picture)
    else none
  | boundLetters count =>
    if isRegional c then some (if count % 2 = 1 then -1 else 3, boundLetters (count + 1))
    else if 2 ≤ count && c = joiner then some (0, bound)
    else none
  | tags written digits =>
    if 0xe0061 ≤ c.toNat && c.toNat ≤ 0xe007a then
      if digits = 0 && written < 6 then some (0, tags (written + 1) 0) else none
    else if 0xe0030 ≤ c.toNat && c.toNat ≤ 0xe0039 then
      if written < 5 && digits < 3 then some (0, tags written (digits + 1)) else none
    else if c.toNat = 0x1f3f4 && (digits = 3 || (digits = 0 && 3 ≤ written)) then some (0, picture)
    else none

/-- What stays open in front of a selector. -/
def beforeSelector (o : Opening) (p : Presentation) : Opening :=
  match o, p with
  | ligature l joined, _ => ligature l joined
  | bound, .picture => bound
  | keycap, .picture => keycap
  | _, _ => nothing

end Opening

/-- What the characters after a place hold out to the one before it. -/
structure Ahead where
  opening : Opening
  selected : Option Presentation
  deriving Repr, DecidableEq

namespace Ahead

def opened (o : Opening) : Ahead :=
  ⟨o, none⟩

/-- The columns that a character adds when no selector follows it. Controls take one, and a line
end of two characters takes one. -/
def stepUnselected (e : Edition) (o : Opening) (c : Char) : Int × Ahead :=
  if c = '\n' then (1, opened .lineFeed)
  else if c.toNat ≤ 0xa0 then (if c = '\r' && o = .lineFeed then 0 else 1, opened .nothing)
  else match Presentation.ofSelector? e c with
    | some p => (0, ⟨o.beforeSelector p, some p⟩)
    | none =>
      let (columns, rest) := (o.continue? e c).getD (e.columns c, .ofLast e c)
      (columns, opened rest)

/-- The columns that a character adds in front of what is ahead, and what is then ahead. -/
def step (a : Ahead) (e : Edition) (c : Char) : Int × Ahead :=
  match a.selected with
  | none => stepUnselected e a.opening c
  | some p =>
    if p.applies c then
      match p with
      | .text => (1, opened .nothing)
      | .fullwidth => (2, opened .nothing)
      | .picture =>
        (if a.opening = .bound || a.opening = .keycap then 0 else 2, opened .picture)
    else stepUnselected e (a.opening.beforeSelector .text) c

end Ahead

namespace Edition

/-- The columns of a text, and what it holds out to a character in front of it. -/
def measure (e : Edition) : List Char → Int × Ahead
  | [] => (0, .opened .nothing)
  | c :: cs =>
    let (columns, ahead) := e.measure cs
    let (added, ahead) := ahead.step e c
    (columns + added, ahead)

/-- The columns that a text takes. A control character in it counts as one. -/
def width (e : Edition) (cs : List Char) : Nat :=
  (e.measure cs).1.toNat

end Edition

/-- The columns that a text takes in the layout of a form. -/
def width (cs : List Char) : Nat :=
  Edition.layout.width cs

/-- The columns that a text takes in the cells of the screen. -/
def cellWidth (cs : List Char) : Nat :=
  Edition.screen.width cs

end ScreenForm.Text
