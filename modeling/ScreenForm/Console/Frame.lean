import ScreenForm.Dialog.Panel

/-!
# Frames

What a console looks like: its header at the top, its footer at the bottom, its
form in between, and the dialog over all of it. A line of text takes the place
of the footer when there is one to show.
-/

namespace ScreenForm

/-- Text for the footer of one frame, at its left and at its right side. -/
structure FooterText where
  info : Option String := none
  tooltip : Option String := none
  deriving Repr, DecidableEq, Inhabited

def FooterText.isEmpty (t : FooterText) : Bool :=
  t.info.isNone && t.tooltip.isNone

namespace Frame

/-- The areas of header, body and footer on a screen. The footer comes before the header, and
both before the body, when there are not enough rows. -/
def split (screen : Area) (headerRows footerRows : Nat) : Area × Area × Area :=
  let footer := min footerRows screen.height
  let header := min headerRows (screen.height - footer)
  let body := screen.height - footer - header
  ({ screen with height := header },
    { screen with y := screen.y + header, height := body },
    { screen with y := screen.y + header + body, height := footer })

/-- The rows that a part of the form takes, which need not be there. -/
def partRows (f : Form) (part : Option Nat) (width : Nat) : Nat :=
  (part.map (f.tree.rows · width)).getD 0

def paintPart (f : Form) (part : Option Nat) (a : Area) (b : Buffer) : Buffer :=
  match part with
  | some id => f.tree.paint id a false b
  | none => b

def namedStyle (f : Form) (name : String) (fallback : Style) : Style :=
  ((f.palette.find? name).map Rule.style).getD fallback

/-- Writes the footer text into the first row of an area. -/
def paintFooterText (f : Form) (text : FooterText) (a : Area) (b : Buffer) : Buffer :=
  let line : Area := { a with height := min a.height 1 }
  let b := b.clear line
  let b :=
    match text.info with
    | some info =>
      let b := b.setStyle line (namedStyle f Theme.infoName Theme.info)
      b.putLines line [info.toList] .left .plain
    | none => b
  match text.tooltip with
  | some tooltip =>
    let style := namedStyle f Theme.tooltipName Theme.tooltip
    let b := if text.info.isNone then b.setStyle line style else b
    b.putLines line [tooltip.toList] .right style
  | none => b

/-- The areas of header, body and footer of a form. The footer text needs a row. -/
def areas (f : Form) (text : FooterText) (screen : Area) : Area × Area × Area :=
  let footerRows := partRows f f.footer screen.width
  split screen (partRows f f.header screen.width) (if text.isEmpty then footerRows else max footerRows 1)

/-- Paints a form without a dialog. -/
def paintForm (f : Form) (focused : Bool) (text : FooterText) (b : Buffer) : Buffer :=
  let (header, body, footer) := areas f text b.area
  let b := paintPart f f.header header b
  let b := f.tree.paint f.root body focused b
  if text.isEmpty then paintPart f f.footer footer b else paintFooterText f text footer b

/-- Paints a form and the panel over it. -/
def paint (f : Form) (panel : Option Panel) (text : FooterText) (b : Buffer) : Buffer :=
  let painted := paintForm f panel.isNone text b
  match panel with
  | some p =>
    let overlay := p.areaOn b.area
    p.paint overlay (painted.clear overlay)
  | none => painted

/-- Whether the parts of a form can be painted on a screen. -/
def formPaintable (f : Form) (text : FooterText) (screen : Area) : Bool :=
  let (header, body, footer) := areas f text screen
  f.header.all (f.tree.paintable · header) && f.tree.paintable f.root body &&
    (!text.isEmpty || f.footer.all (f.tree.paintable · footer))

def paintable (f : Form) (panel : Option Panel) (text : FooterText) (screen : Area) : Bool :=
  formPaintable f text screen && panel.all fun p => p.paintable (p.areaOn screen)

/-- Paints a form and the panel over it, unless that stops the program. -/
def render? (f : Form) (panel : Option Panel) (text : FooterText) (b : Buffer) : Option Buffer :=
  if paintable f panel text b.area then some (paint f panel text b) else none

end Frame

end ScreenForm
