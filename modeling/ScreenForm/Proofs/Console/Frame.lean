import ScreenForm.Proofs.Dialog.Overlay
import ScreenForm.Proofs.Layout.Label
/-!
# Footer text on a screen

The text for the footer takes the row where the footer begins, which is there as
soon as the screen has any row. It can be read there in full where there is room
for it (`Frame.paintForm_footer`).
-/

namespace ScreenForm

theorem Area.Inside.firstRow {a : Area} {b : Buffer} (h : a.Inside b) :
    Area.Inside { a with height := min a.height 1 } b := by
  refine ⟨h.right, ?_, h.width, h.height⟩
  have hbottom := h.bottom
  simp only [Area.bottom] at hbottom ⊢
  omega

namespace Frame

open Buffer

variable {f : Form} {text : FooterText} {a : Area} {b : Buffer} {width height : Nat}

/-- The column where a text for the right side of a line begins. -/
def tooltipColumn (a : Area) (tooltip : String) : Nat :=
  a.x + Align.right.offset a.width (clampCells (Text.displayWidth tooltip.toList))

section

variable (hheight : a.height ≠ 0) (hin : a.Inside b) (hb : b.Whole)
include hheight hin hb

/-- A text for the right side of the footer can be read where it begins. -/
theorem spells_tooltip {tooltip : String} (htooltip : text.tooltip = some tooltip)
    (hfit : tooltipColumn a tooltip + drawnWidth tooltip.toList ≤ a.right) :
    (paintFooterText f text a b).Spells (tooltipColumn a tooltip) a.y (visibleClusters tooltip.toList) := by
  let line : Area := { a with height := min a.height 1 }
  have hrow : line.height ≠ 0 := by simp only [line]; omega
  have hline : line.Inside b := hin.firstRow
  have hroom : drawnWidth tooltip.toList ≤
      line.width - Align.right.offset line.width (clampCells (Text.displayWidth tooltip.toList)) := by
    simp only [tooltipColumn, Area.right, line] at hfit ⊢
    omega
  have hclear : Writes line (fun _ => True) fun b => b.clear line := writes_modifyArea line trivial
  have hstyle (s : Style) : Writes line (fun _ => True) fun b => b.setStyle line s := writes_modifyArea line trivial
  -- Whatever is in the line before, the text is written over it.
  have hspells {write : Buffer → Buffer} (hwrites : Writes line (fun _ => True) write) (s : Style) :
      ((write b).putLines line [tooltip.toList] .right s).Spells (tooltipColumn a tooltip) a.y
        (visibleClusters tooltip.toList) :=
    spells_putLines (hwrites.whole hb) hrow (hline.of_sameOutside (hwrites.sameOutside b)) hroom s
  unfold paintFooterText
  rw [htooltip]
  cases text.info with
  | none => exact hspells (hclear.then (hstyle _)) _
  | some info => exact hspells ((hclear.then (hstyle _)).then (writes_putLines line [info.toList] .left .plain).any) _

/-- A text for the left side can be read from the first column on if it ends before the one for the right side. -/
theorem spells_info {info : String} (hinfo : text.info = some info) (hfit : drawnWidth info.toList ≤ a.width)
    (hapart : ∀ tooltip, text.tooltip = some tooltip → a.x + drawnWidth info.toList ≤ tooltipColumn a tooltip) :
    (paintFooterText f text a b).Spells a.x a.y (visibleClusters info.toList) := by
  let line : Area := { a with height := min a.height 1 }
  have hrow : line.height ≠ 0 := by simp only [line]; omega
  have hline : line.Inside b := hin.firstRow
  let style := namedStyle f Theme.infoName Theme.info
  have hwrites : Writes line (fun _ => True) fun b => (b.clear line).setStyle line style :=
    (writes_modifyArea line trivial).then (writes_modifyArea line trivial)
  let written := ((b.clear line).setStyle line style).putLines line [info.toList] .left .plain
  have hspells : written.Spells a.x a.y (visibleClusters info.toList) :=
    spells_putLines (hwrites.whole hb) hrow (hline.of_sameOutside (hwrites.sameOutside b)) hfit _
  unfold paintFooterText
  rw [hinfo]
  cases htooltip : text.tooltip with
  | none => exact hspells
  | some tooltip =>
    have hcolumn := hapart tooltip htooltip
    show (written.putLines line [tooltip.toList] .right (namedStyle f Theme.tooltipName Theme.tooltip)).Spells _ _ _
    rw [putLines_singleton _ hrow]
    -- The text for the right side begins behind this one and goes on to the right.
    refine hspells.congr pos_of_mem_visibleClusters fun x hx hlt => ?_
    refine ((writes_putText ..).sameOutside written).cells _ _ ?_
    rw [← Bool.not_eq_true, Area.has_iff]
    simp only [drawnWidth, tooltipColumn] at hcolumn
    dsimp only [line]
    omega

end

/-- With a text for it, the footer has a row at the bottom of the screen. -/
theorem footer_areas (f : Form) (htext : text.isEmpty = false) {screen : Area} (hheight : screen.height ≠ 0) :
    let footer := (areas f text screen).2.2
    footer.x = screen.x ∧ footer.width = screen.width ∧ footer.height ≠ 0 ∧ footer.bottom = screen.bottom := by
  refine ⟨rfl, rfl, ?_, ?_⟩
  all_goals simp only [areas, split, htext, Area.bottom, Bool.false_eq_true, if_false]
  all_goals omega

/-- A frame shows the text for its footer in the row where the footer begins, the one for the left side from the first
column on, and the one for the right side up to the last column. -/
theorem paintForm_footer (f : Form) (focused : Bool) (hb : OfSize width height b) (hwidth : width ≤ maxCells)
    (hheight : height ≠ 0) (hmax : height ≤ maxCells) :
    let footer := (areas f text (.ofSize width height)).2.2
    (∀ info, text.info = some info → drawnWidth info.toList ≤ width →
      (∀ tooltip, text.tooltip = some tooltip → drawnWidth info.toList ≤ tooltipColumn footer tooltip) →
      (paintForm f focused text b).Spells 0 footer.y (visibleClusters info.toList)) ∧
    ∀ tooltip, text.tooltip = some tooltip → tooltipColumn footer tooltip + drawnWidth tooltip.toList ≤ width →
      (paintForm f focused text b).Spells (tooltipColumn footer tooltip) footer.y (visibleClusters tooltip.toList) := by
  intro footer
  have harea : b.area = .ofSize width height := by rw [Buffer.area, hb.width, hb.height]
  let below := f.tree.paint f.root (areas f text (.ofSize width height)).2.1 focused
    (paintPart f f.header (areas f text (.ofSize width height)).1 b)
  have hbelow : OfSize width height below := f.tree.ofSize_paint _ _ _ (ofSize_paintPart f.header _ hb)
  have hpaint (htext : text.isEmpty = false) : paintForm f focused text b = paintFooterText f text footer below := by
    unfold paintForm
    rw [harea]
    exact if_neg (by simp [htext])
  -- Where the footer is, and that it is in the buffer, needs a text for it: without one it may have no row.
  have hfooter (htext : text.isEmpty = false) :
      footer.x = 0 ∧ footer.width = width ∧ footer.height ≠ 0 ∧ footer.bottom = height := by
    obtain ⟨hx, hw, hrow, hbottom⟩ := footer_areas f htext (show (Area.ofSize width height).height ≠ 0 from hheight)
    exact ⟨hx, hw, hrow, hbottom.trans (Nat.zero_add height)⟩
  have hin (htext : text.isEmpty = false) : footer.Inside below := by
    obtain ⟨hx, hw, -, hbottom⟩ := hfooter htext
    refine ⟨?_, by rw [hbottom, hbelow.height], by rwa [hbelow.width], by rwa [hbelow.height]⟩
    rw [Area.right, hx, hw, hbelow.width, Nat.zero_add]
  constructor
  · intro info hinfo hfit hapart
    have htext : text.isEmpty = false := by simp [FooterText.isEmpty, hinfo]
    obtain ⟨hx, hw, hrow, -⟩ := hfooter htext
    have hspells := spells_info (f := f) hrow (hin htext) hbelow.whole hinfo (by rwa [hw]) (by simpa [hx] using hapart)
    rwa [hpaint htext, ← hx]
  · intro tooltip htooltip hfit
    have htext : text.isEmpty = false := by simp [FooterText.isEmpty, htooltip]
    obtain ⟨hx, hw, hrow, -⟩ := hfooter htext
    rw [hpaint htext]
    refine spells_tooltip hrow (hin htext) hbelow.whole htooltip ?_
    rwa [Area.right, hx, hw, Nat.zero_add]

end Frame

end ScreenForm
