import ScreenForm.Style.Palette

/-!
# Theme

The looks of what no description styles, and the palette that every dialog has
below its own.
-/

namespace ScreenForm.Theme

/-- The cell of an edit that holds the cursor. -/
def cursor : Style :=
  { foreground := some .yellow, effects := { reversed := true } }

/-- The frame around a list. -/
def border : Style :=
  { foreground := some .darkGray }

/-- A button, check box or radio button that has the focus. -/
def focusedLabel : Style :=
  { effects := { bold := true } }

/-- The line of information in the footer, unless the palette has a rule `info`. -/
def info : Style :=
  { foreground := some .white, background := some .blue }

/-- The hint in the footer, unless the palette has a rule `tooltip`. -/
def tooltip : Style :=
  { foreground := some .black, background := some .gray, effects := { italic := true } }

def infoName : String := "info"

def tooltipName : String := "tooltip"

/-- The palette text of dialogs, unless an application brings another one. -/
def dialogPalette : String := "
dialog        : BL, Lg, SO
header        : WH, DC, BO
shadow        : WH, BL, SO
shadow.border : BL,  _, SO
Button        : BL, Lg, SO
Button*       : WH, DM, BO
Edit          : BL, WH, SO
Edit*         : DM, WH, BO
"

end ScreenForm.Theme
