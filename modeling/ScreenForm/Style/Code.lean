import ScreenForm.Style.Basic

/-!
# Style codes

Palette rules name colors and font effects by short codes, such as `DB` for dark
blue or `BO` for bold. Case counts: `LG` is light green and `Lg` is light gray.
-/

namespace ScreenForm

/-- What a code stands for. -/
inductive Code where
  /-- The terminal's own color, written `_`. -/
  | terminal
  | color (color : Color)
  | font (effects : Effects)
  deriving Repr, DecidableEq, Inhabited

namespace Code

def table : List (String × Code) :=
  [("WH", color .white), ("BL", color .black), ("YL", color .lightYellow), ("BR", color .yellow),
    ("LR", color .lightRed), ("LG", color .lightGreen), ("LB", color .lightBlue),
    ("LC", color .lightCyan), ("LM", color .lightMagenta), ("Lg", color .gray),
    ("DR", color .red), ("DG", color .green), ("DB", color .blue), ("DC", color .cyan),
    ("DM", color .magenta), ("Dg", color .darkGray), ("SO", font { reversed := true }),
    ("BO", font { bold := true }), ("UL", font { underlined := true }), ("_", terminal)]

def ofName? (name : String) : Option Code :=
  table.lookup name

/-- The effect of a code in the foreground field of a rule. -/
def asForeground (s : Style) : Code → Style
  | terminal => s.withForeground .reset
  | color c => s.withForeground c
  | font e => s.addEffects e

/-- The effect of a code in the background field of a rule. -/
def asBackground (s : Style) : Code → Style
  | terminal => s.withBackground .reset
  | color c => s.withBackground c
  | font e => s.addEffects e

/-- The effect of a code in the font field of a rule: a color there is a foreground. -/
def asFont (s : Style) : Code → Style
  | terminal => s
  | color c => s.withForeground c
  | font e => s.addEffects e

end Code

end ScreenForm
