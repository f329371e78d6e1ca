import ScreenForm.Console.Frame
import ScreenForm.Proofs.Dialog.View
/-!
# Dialogs over a console

The area of a dialog is made blank before the dialog is painted into it, and the
dialog is painted nowhere else. So a frame shows the dialog in this area, whatever
is below it, and the console in all other cells (`DialogPlan.build_covers`).
-/

namespace ScreenForm

open Buffer

/-! ## In the middle of a screen -/

/-- The area lies on the screen. Its margins are the same on both sides, or one cell larger at the right or at the
bottom. -/
structure Area.Centered (a screen : Area) : Prop where
  left : screen.x ≤ a.x
  right : a.right ≤ screen.right
  top : screen.y ≤ a.y
  bottom : a.bottom ≤ screen.bottom
  columns : a.x - screen.x ≤ screen.right - a.right ∧ screen.right - a.right ≤ a.x - screen.x + 1
  rows : a.y - screen.y ≤ screen.bottom - a.bottom ∧ screen.bottom - a.bottom ≤ a.y - screen.y + 1

theorem Panel.centered_areaOn (p : Panel) (screen : Area) : (p.areaOn screen).Centered screen := by
  unfold areaOn
  constructor <;> simp only [Area.right, Area.bottom] <;> omega

/-! ## Buffers of one size -/

namespace Buffer

variable {width height : Nat} {b : Buffer}

/-- The buffer has a cell for each column and row of a screen of this size. -/
structure OfSize (width height : Nat) (b : Buffer) : Prop where
  width : b.width = width
  height : b.height = height
  whole : b.Whole

theorem ofSize_blank (width height : Nat) : OfSize width height (blank width height) :=
  ⟨rfl, rfl, whole_blank width height⟩

theorem Writes.ofSize {area : Area} {may : (Cell → Cell) → Prop} {write : Buffer → Buffer} (h : Writes area may write)
    (hb : OfSize width height b) : OfSize width height (write b) :=
  ⟨(h.sameOutside b).width.trans hb.width, (h.sameOutside b).height.trans hb.height, h.whole hb.whole⟩

/-- An area that is cleared is as if nothing had been written to it. -/
theorem OfSize.sameInside_clear (hb : OfSize width height b) (a : Area) : SameInside a (blank width height) (b.clear a) := by
  have hsame := (@writes_modifyArea a (fun _ => True) (fun _ => .blank) trivial).sameOutside b
  refine ⟨hsame.width.trans hb.width, hsame.height.trans hb.height, fun x y hxy => ?_⟩
  rw [clear, get?_modifyArea, if_pos hxy]
  by_cases hin : x < width ∧ y < height
  · obtain ⟨c, hc⟩ := hb.whole.exists_cell (hb.width ▸ hin.1) (hb.height ▸ hin.2)
    obtain ⟨d, hd⟩ := (whole_blank width height).exists_cell hin.1 hin.2
    have hblank := each_blank (P := (· = .blank)) rfl a width height x y d hxy hd
    rw [hc, hd, hblank]
    rfl
  · rw [get?_of_out (by rwa [hb.width, hb.height]), @get?_of_out (blank width height) x y hin]
    rfl

end Buffer

variable {width height : Nat} {b : Buffer}

theorem Tree.ofSize_paint (t : Tree) (id : Nat) (area : Area) (focused : Bool) (hb : OfSize width height b) :
    OfSize width height (t.paint id area focused b) := by
  rw [Tree.paint_eq]
  exact List.foldlRecOn (motive := OfSize width height) _ _ hb fun b hb p _ => (Widget.writes_paintSelf ..).ofSize hb

namespace Frame

variable {f : Form}

theorem ofSize_paintPart (part : Option Nat) (a : Area) (hb : OfSize width height b) :
    OfSize width height (paintPart f part a b) := by
  cases part with
  | some id => exact f.tree.ofSize_paint id a false hb
  | none => exact hb

theorem writes_paintFooterText (f : Form) (text : FooterText) (a : Area) :
    Writes a (fun _ => True) (paintFooterText f text a) := by
  obtain ⟨info, tooltip⟩ := text
  let line : Area := { a with height := min a.height 1 }
  have hline : line.Within a := by
    refine .of_edges ?_ ?_ ?_ ?_ <;> simp only [line, Area.right, Area.bottom] <;> omega
  have hclear : Writes line (fun _ => True) fun b => b.clear line := writes_modifyArea line trivial
  have hstyle (s : Style) : Writes line (fun _ => True) fun b => b.setStyle line s := writes_modifyArea line trivial
  have hlines (s : String) (align : Align) (style : Style) : Writes line (fun _ => True) fun b =>
      b.putLines line [s.toList] align style := (writes_putLines ..).any
  refine Writes.within ?_ hline
  cases info with
  | none =>
    cases tooltip with
    | none => exact hclear
    | some tooltip => exact (hclear.then (hstyle _)).then (hlines tooltip .right _)
  | some info =>
    have hinfo := (hclear.then (hstyle (namedStyle f Theme.infoName Theme.info))).then (hlines info .left .plain)
    cases tooltip with
    | none => exact hinfo
    | some tooltip => exact hinfo.then (hlines tooltip .right _)

/-- The console fills the screen with cells, whatever its form is. -/
theorem ofSize_paintForm (f : Form) (focused : Bool) (text : FooterText) (hb : OfSize width height b) :
    OfSize width height (paintForm f focused text b) := by
  have hheader (a : Area) : OfSize width height (paintPart f f.header a b) := ofSize_paintPart f.header a hb
  have hbody (a body : Area) : OfSize width height (f.tree.paint f.root body focused (paintPart f f.header a b)) :=
    f.tree.ofSize_paint f.root body focused (hheader a)
  unfold paintForm
  dsimp only
  split
  · exact ofSize_paintPart f.footer _ (hbody _ _)
  · exact (writes_paintFooterText f text _).ofSize (hbody _ _)

end Frame

/-! ## Below a dialog -/

variable {H E : Type}

/-- What is shown of a dialog after some uses of its form. -/
def Dialog.panelAfter (d : Dialog H E) (uses : List FormUse) : Panel :=
  { d.toPanel with form := uses.foldl Form.use d.form }

/-- A dialog is painted into its area only, and over nothing that was there before. -/
theorem DialogPlan.writes_paint {plan : DialogPlan H E} {base : Palette} {d : Dialog H E} (h : plan.build base = .ok d)
    (uses : List FormUse) (a : Area) : Writes a (fun _ => True) ((d.panelAfter uses).paint a) := by
  have hinUse : (uses.foldl Form.use d.form).InUse :=
    List.foldlRecOn (motive := Form.InUse) uses _ (.built h) fun f hf u _ => .used hf u
  obtain ⟨f, -, -, hdressing, -⟩ := build_dressing h
  have hview : d.view < d.form.tree.size := hdressing.forest.mem_iff.1 (.inr List.mem_cons_self)
  rw [← Tree.size_eq_of_fixed (Form.fixed_foldl_use d.form uses)] at hview
  exact Tree.writes_paint hinUse.attentive.tree.ordered hinUse.sized.narrow hview a true

/-- A frame with a dialog shows the dialog in its area, and nothing of the console. Outside of this area it is the frame
of the console, painted without the focus. The area lies in the middle of the screen. -/
theorem DialogPlan.build_covers {plan : DialogPlan H E} {base : Palette} {d : Dialog H E} (h : plan.build base = .ok d)
    (uses : List FormUse) (width height : Nat) :
    let p := d.panelAfter uses
    let overlay := p.areaOn (.ofSize width height)
    let frame (f : Form) (text : FooterText) : Buffer := Frame.paint f (some p) text (.blank width height)
    (∀ f f' text text', SameInside overlay (frame f text) (frame f' text')) ∧
    (∀ f text, SameInside overlay (p.paint overlay (.blank width height)) (frame f text)) ∧
    (∀ f text, SameOutside overlay (Frame.paintForm f false text (.blank width height)) (frame f text)) ∧
    ∀ screen, (p.areaOn screen).Centered screen := by
  intro p overlay frame
  have hwrites : Writes overlay (fun _ => True) (p.paint overlay) := writes_paint h uses overlay
  have hinside (f : Form) (text : FooterText) : SameInside overlay (p.paint overlay (.blank width height)) (frame f text) := by
    -- The console has filled the screen, so what is cleared of it is as on an empty one.
    have hform := Frame.ofSize_paintForm f false text (ofSize_blank width height)
    exact hwrites.sameInside (hform.sameInside_clear overlay)
  have houtside (f : Form) (text : FooterText) :
      SameOutside overlay (Frame.paintForm f false text (.blank width height)) (frame f text) := by
    have hclear : Writes overlay (fun _ => True) fun b => b.clear overlay := writes_modifyArea overlay trivial
    exact (hclear.then hwrites).sameOutside _
  exact ⟨fun f f' text text' => (hinside f text).symm.trans (hinside f' text'), hinside, houtside, p.centered_areaOn⟩

/-- The console is seen around this dialog, and not in its padding. -/
theorem DialogPlan.build_covers_texts : ∃ (p : Panel) (f f' : Form), p.areaOn (.ofSize 6 3) = ⟨1, 1, 4, 1⟩ ∧
    (Frame.paint f (some p) {} (.blank 6 3)).lines = ["aaaaaa", "a hi a", "aaaaaa"] ∧
    (Frame.paint f' (some p) {} (.blank 6 3)).lines = ["bbbbbb", "b hi b", "bbbbbb"] ∧
    SameInside ⟨1, 1, 4, 1⟩ (Frame.paint f (some p) {} (.blank 6 3)) (Frame.paint f' (some p) {} (.blank 6 3)) ∧
    SameOutside ⟨1, 1, 4, 1⟩ (Frame.paintForm f false {} (.blank 6 3)) (Frame.paint f (some p) {} (.blank 6 3)) ∧
    (⟨1, 1, 4, 1⟩ : Area).Centered (.ofSize 6 3) := by
  let plan : DialogPlan Unit Unit := { description := "Txt hi", width := 4, height := some 1 }
  let console (letter : Char) : Form := ((Form.parse ("Txt " ++ "".pushn letter 18) {} {}).toOption).getD default
  let frame (letter : Char) (d : Dialog Unit Unit) : Buffer :=
    Frame.paint (console letter) (some (d.panelAfter [])) {} (.blank 6 3)
  have hfacts : (plan.build {}).toOption.map (fun d => ((d.panelAfter []).areaOn (.ofSize 6 3), (frame 'a' d).lines,
      (frame 'b' d).lines)) =
      some (⟨1, 1, 4, 1⟩, ["aaaaaa", "a hi a", "aaaaaa"], ["bbbbbb", "b hi b", "bbbbbb"]) := by
    decide +kernel
  obtain ⟨d, hd, hfacts⟩ := Option.map_eq_some_iff.1 hfacts
  obtain ⟨harea, hlines, hlines'⟩ : (d.panelAfter []).areaOn (.ofSize 6 3) = ⟨1, 1, 4, 1⟩ ∧
      (frame 'a' d).lines = _ ∧ (frame 'b' d).lines = _ := by simpa only [Prod.mk.injEq] using hfacts
  have hbuild : plan.build {} = .ok d := Except.toOption_eq_some.1 hd
  obtain ⟨hinside, -, houtside, hcentered⟩ := DialogPlan.build_covers hbuild [] 6 3
  have hcentered := hcentered (.ofSize 6 3)
  rw [harea] at hinside houtside hcentered
  exact ⟨d.panelAfter [], console 'a', console 'b', harea, hlines, hlines', hinside _ _ {} {}, houtside _ {}, hcentered⟩

end ScreenForm
