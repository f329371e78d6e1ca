/-!
# Colors and styles

A `Style` says what to change about a cell: its foreground, its background, and
the font effects to add. A color that is not given is left as it was.
-/

namespace ScreenForm

inductive Color where
  | reset
  | black
  | red
  | green
  | yellow
  | blue
  | magenta
  | cyan
  | gray
  | darkGray
  | lightRed
  | lightGreen
  | lightYellow
  | lightBlue
  | lightMagenta
  | lightCyan
  | white
  deriving Repr, DecidableEq, Inhabited

/-- A set of font effects. -/
structure Effects where
  bold : Bool := false
  italic : Bool := false
  underlined : Bool := false
  reversed : Bool := false
  deriving Repr, DecidableEq, Inhabited

namespace Effects

def none : Effects := {}

def union (a b : Effects) : Effects :=
  { bold := a.bold || b.bold
    italic := a.italic || b.italic
    underlined := a.underlined || b.underlined
    reversed := a.reversed || b.reversed }

end Effects

structure Style where
  foreground : Option Color := .none
  background : Option Color := .none
  effects : Effects := .none
  deriving Repr, DecidableEq, Inhabited

namespace Style

/-- The style that changes nothing. -/
def plain : Style := {}

def withForeground (s : Style) (c : Color) : Style :=
  { s with foreground := some c }

def withBackground (s : Style) (c : Color) : Style :=
  { s with background := some c }

def addEffects (s : Style) (e : Effects) : Style :=
  { s with effects := s.effects.union e }

end Style

end ScreenForm
