import ScreenForm.Proofs.Form.Made
import ScreenForm.Proofs.Layout.Natural
import ScreenForm.Proofs.Screen.Buffer
/-!
# Painting within an area

A container gives its children parts of its own area that share no cell
(`Tree.tiles_slots`), and each widget writes only into the area that it is painted
into. So nothing outside of an area changes when a widget of a form is painted
into it (`Form.InUse.paint_confined`).
-/

namespace ScreenForm

namespace Layout

/-! ## Slots that share nothing -/

/-- The slots lie in the area, and no two of them share a cell. -/
structure Tiles (area : Area) (slots : List Slot) : Prop where
  within : ∀ s ∈ slots, s.area.Within area
  apart : slots.Pairwise fun s s' => s.area.Apart s'.area

section Tiles

variable {area a a' : Area} {s : Slot} {slots slots' : List Slot}

theorem Tiles.nil : Tiles area [] := ⟨nofun, .nil⟩

theorem Tiles.singleton (h : s.area.Within area) : Tiles area [s] :=
  ⟨by simpa using h, List.pairwise_singleton ..⟩

theorem Tiles.mono (h : Tiles a slots) (hsub : a.Within area) : Tiles area slots :=
  ⟨fun s hs => (h.within s hs).trans hsub, h.apart⟩

theorem Tiles.append (h : Tiles a slots) (h' : Tiles a' slots') (hapart : a.Apart a') (hsub : a.Within area)
    (hsub' : a'.Within area) : Tiles area (slots ++ slots') where
  within s hs := (List.mem_append.1 hs).elim ((h.mono hsub).within s) ((h'.mono hsub').within s)
  apart := by
    refine List.pairwise_append.2 ⟨h.apart, h'.apart, fun s hs s' hs' x y hxy => ?_⟩
    have hout := hapart x y (h.within s hs x y hxy)
    rw [← Bool.not_eq_true] at hout ⊢
    exact fun hin => hout (h'.within s' hs' x y hin)

end Tiles

/-! ## Bands of an area -/

/-- What a position and a size stand for: rows from `k` on, or columns. -/
structure Bands (band : Nat → Nat → Area) : Prop where
  within : ∀ {start size k n}, start ≤ k → k + n ≤ max k (start + size) → (band k n).Within (band start size)
  apart : ∀ {k n k' n'}, k + n ≤ k' → (band k n).Apart (band k' n')

theorem bands_rows (a : Area) : Bands fun y height => ⟨a.x, y, a.width, height⟩ where
  within h h' x y hxy := by
    simp only [Area.has_iff, Area.right, Area.bottom] at hxy ⊢
    omega
  apart h x y hxy := by
    rw [← Bool.not_eq_true]
    simp only [Area.has_iff, Area.right, Area.bottom] at hxy ⊢
    omega

theorem bands_columns (a : Area) : Bands fun x width => ⟨x, a.y, width, a.height⟩ where
  within h h' x y hxy := by
    simp only [Area.has_iff, Area.right, Area.bottom] at hxy ⊢
    omega
  apart h x y hxy := by
    rw [← Bool.not_eq_true]
    simp only [Area.has_iff, Area.right, Area.bottom] at hxy ⊢
    omega

/-- Pieces that are placed one after the other share nothing, if each keeps to its band. -/
theorem tiles_inLine {α : Type} {size : α → Nat} {place : α → Nat → Nat → List Slot} {band : Nat → Nat → Area}
    (hband : Bands band) (hplace : ∀ p k n, Tiles (band k n) (place p k n)) (gap stop start : Nat) (l : List α) :
    Tiles (band start (stop - start)) (inLine size place gap stop start l) := by
  induction l generalizing start with
  | nil => exact .nil
  | cons p rest ih =>
    rw [inLine]
    split
    · exact .nil
    · exact (hplace p start _).append (ih _) (hband.apart (by omega)) (hband.within (Nat.le_refl _) (by omega))
        (hband.within (by omega) (by omega))

/-! ## The slots of containers and wrappers -/

theorem tiles_stack (a : Area) (l : List (Nat × Nat)) : Tiles a (stack a a.y l) := by
  rw [stack_eq]
  refine (tiles_inLine (bands_rows a) (fun p y height => ?_) 0 a.bottom a.y l).mono ?_
  · exact .singleton (.refl _)
  · refine .of_edges ?_ ?_ ?_ ?_ <;> simp only [Area.right, Area.bottom] <;> omega

theorem tiles_across (a : Area) (gap : Nat) (l : List (Nat × Nat)) : Tiles a (across a gap a.x l) := by
  rw [across_eq]
  refine (tiles_inLine (bands_columns a) (fun p x width => ?_) gap a.right a.x l).mono ?_
  · exact .singleton (.refl _)
  · refine .of_edges ?_ ?_ ?_ ?_ <;> simp only [Area.right, Area.bottom] <;> omega

/-- The cells of a row end at the right edge, wherever it begins. -/
theorem tiles_gridRow (a : Area) (y cell gap height x : Nat) (l : List (Nat × Nat)) :
    Tiles ⟨x, y, a.right - x, height⟩ (gridRow a y cell gap height x l) := by
  have hband := bands_columns ⟨x, y, a.right - x, height⟩
  induction l generalizing x with
  | nil => exact .nil
  | cons p rest ih =>
    have hrest := ih (x + cell + gap) (bands_columns _)
    exact .append (.singleton (.refl _)) hrest (hband.apart (by omega)) (hband.within (Nat.le_refl _) (by omega))
      (hband.within (by omega) (by omega))

theorem tiles_gridRows (a : Area) (cell columnGap rowGap : Nat) (align : Align) (rows : List (List (Nat × Nat))) :
    Tiles a (gridRows a cell columnGap rowGap align a.y rows) := by
  rw [gridRows_eq]
  refine (tiles_inLine (bands_rows a) (fun row y height => ?_) rowGap a.bottom a.y rows).mono ?_
  · refine (tiles_gridRow a y cell columnGap height _ row).mono fun x' y' hxy => ?_
    simp only [Area.has_iff, Area.right, Area.bottom] at hxy ⊢
    omega
  · refine .of_edges ?_ ?_ ?_ ?_ <;> simp only [Area.right, Area.bottom] <;> omega

end Layout

open Layout

namespace Arrangement

theorem innerArea_within (a : Arrangement) (area : Area) : (a.innerArea area).Within area := by
  cases a with
  | list height border =>
    cases border with
    | false => exact .refl area
    | true => exact area.inner_within
  | _ => exact .refl area

/-- A container gives its children parts of its area that share no cell. -/
theorem tiles_slots (a : Arrangement) (focus : Nat) (area : Area) (heights : List Nat) :
    Tiles area (a.slots focus area heights) := by
  refine Tiles.mono ?_ (a.innerArea_within area)
  cases a with
  | pile => exact tiles_stack ..
  | columns widths gap => exact tiles_across ..
  | grid cellWidth columnGap rowGap align => exact tiles_gridRows ..
  | list height border => exact tiles_stack ..

/-- The slots are those of some of the children, in their order. -/
theorem index_slots_sublist (a : Arrangement) (focus : Nat) (area : Area) (heights : List Nat) :
    ((a.slots focus area heights).map (·.index)).Sublist (List.range heights.length) := by
  have hnumbers (l : List Nat) : l.zipIdx.map Prod.snd = List.range l.length := by
    rw [List.zipIdx_map_snd, List.range_eq_range']
  rw [← hnumbers]
  cases a with
  | pile => exact (index_stack_initial ..).sublist
  | columns widths gap =>
    have hlength : (columnWidths (fullWidths widths heights.length) gap area.width).length = heights.length := by
      rw [length_columnWidths, length_fullWidths]
    rw [hnumbers, ← hlength, ← hnumbers, slots, across_eq, List.map_eq_flatMap (f := Prod.snd)]
    refine (index_inLine_initial (fun p : Nat × Nat => [p.2]) (fun _ _ _ => ?_) _ _).sublist
    rfl
  | grid cellWidth columnGap rowGap align =>
    have hrows : heights.zipIdx.map Prod.snd =
        (chunks (gridPerRow cellWidth columnGap area.width) heights.zipIdx).flatMap (List.map Prod.snd) := by
      rw [List.flatMap_def, ← List.map_flatten, flatten_chunks]
    rw [hrows, slots, gridRows_eq]
    refine (index_inLine_initial (List.map Prod.snd) (fun row _ _ => ?_) _ _).sublist
    exact index_gridRow ..
  | list height border =>
    refine (index_stack_initial ..).sublist.trans ?_
    rw [List.map_drop]
    exact List.drop_sublist ..

end Arrangement

theorem Wrapping.slot_within {w : Wrapping} (h : w.Narrow) (area : Area) : (w.slot area).Within area := by
  cases w with
  | styled normal focus names => exact .refl area
  | padding left right =>
    have hsides : (left + right) % (maxCells + 1) = left + right := Nat.mod_eq_of_lt (Nat.lt_succ_of_le h)
    intro x y hxy
    simp only [Area.has_iff, slot, childWidth, sides, Area.right, Area.bottom] at hxy ⊢
    omega

/-! ## What a widget writes -/

theorem Buffer.writes_putLines (a : Area) (lines : List (List Char)) (align : Align) (s : Style) :
    Writes a (Draws s) fun b => b.putLines a lines align s := by
  refine .foldl fun line hline => (writes_putText ..).within ?_
  have hrow : line.2 < a.height := by
    have hlt := List.snd_lt_of_mem_zipIdx hline
    rw [List.length_take] at hlt
    omega
  intro x y hxy
  simp only [Area.has_iff, Area.right, Area.bottom] at hxy ⊢
  omega

open Buffer

/-- Lines are among all that may be written. -/
theorem Buffer.Writes.any {area : Area} {may : (Cell → Cell) → Prop} {write : Buffer → Buffer} (h : Writes area may write) :
    Writes area (fun _ => True) write :=
  h.mono (.refl area) fun _ _ => trivial

theorem Edit.writes_paint (e : Edit) (area : Area) (focused : Bool) : Writes area (fun _ => True) (e.paint area focused) := by
  have htext := (writes_putLines area (Text.wrap e.content area.width) .left .plain).any
  unfold Edit.paint
  dsimp only
  split
  · next hcursor =>
    simp only [Bool.and_eq_true, decide_eq_true_eq] at hcursor
    refine htext.then ((writes_modifyArea _ trivial).within (.of_edges ?_ ?_ ?_ ?_))
    all_goals simp only [Area.right, Area.bottom]
    all_goals omega
  · exact htext

theorem writes_paintDivider (fill : Char) (caption : String) (top : Nat) (area : Area) :
    Writes area (fun _ => True) (paintDivider fill caption top area) := by
  unfold paintDivider
  split
  · exact .nothing
  · have hline : Area.Within ⟨area.x, area.y + top, area.width, 1⟩ area := by
      refine .of_edges ?_ ?_ ?_ ?_ <;> simp only [Area.right, Area.bottom] <;> omega
    refine Writes.within ?_ hline
    dsimp only
    split
    · exact (writes_putLines ..).any
    · exact (writes_putLines ..).any.then (writes_putLines ..).any

/-- A widget writes only into its area. -/
theorem Widget.writes_paintSelf (w : Widget) (area : Area) (focused : Bool) :
    Writes area (fun _ => True) (w.paintSelf area focused) := by
  cases w with
  | text s align => exact (writes_putLines ..).any
  | button label => exact (writes_putLines ..).any
  | edit e => exact e.writes_paint area focused
  | checkBox label checked => exact (writes_putLines ..).any
  | radioButton label checked group => exact (writes_putLines ..).any
  | divider fill caption top bottom => exact writes_paintDivider ..
  | container arrangement children focus =>
    cases arrangement with
    | list height border =>
      cases border with
      | false => exact .nothing
      | true => exact (writes_putFrame ..).any
    | _ => exact .nothing
  | wrapper wrapping child =>
    cases wrapping with
    | padding left right => exact .nothing
    | styled normal focus names => exact writes_modifyArea area trivial

/-! ## Trees -/

namespace Tree

/-- No wrapper of the tree leaves more columns free than a screen can have. -/
def Narrow (t : Tree) : Prop :=
  ∀ id wrapping child, t.widget id = .wrapper wrapping child → wrapping.Narrow

variable {t : Tree}

theorem Sized.narrow (h : t.Sized) : t.Narrow := by
  intro id wrapping child hw
  have hsized := h id
  rwa [hw] at hsized

/-- Each widget gives its children parts of its area that share no cell. -/
theorem tiles_slots (h : t.Narrow) (id : Nat) (area : Area) :
    Tiles area (t.slots id area) ∧ ((t.slots id area).map (·.index)).Nodup := by
  unfold slots
  split
  · exact ⟨Arrangement.tiles_slots .., List.nodup_range.sublist (Arrangement.index_slots_sublist ..)⟩
  · next wrapping child hw => exact ⟨.singleton (Wrapping.slot_within (h id wrapping child hw) area), List.nodup_singleton _⟩
  · exact ⟨.nil, .nil⟩

theorem Hands.within (hnarrow : t.Narrow) {through : Nat → Prop} {id n : Nat} {area a : Area}
    (h : t.Hands through id area n a) : a.Within area := by
  induction h with
  | self => exact .refl _
  | down visible free slot child rest ih => exact ih.trans ((tiles_slots hnarrow _ _).1.within _ slot)

/-- A widget and the widgets in it write only into the area that it is painted into. -/
theorem writes_paint (hlt : t.Ordered) (hnarrow : t.Narrow) {id : Nat} (hid : id < t.size) (area : Area) (focused : Bool) :
    Writes area (fun _ => True) (t.paint id area focused) := by
  rw [show t.paint id area focused = _ from funext (paint_eq id area focused)]
  refine .foldl fun p hp => ((t.widget p.1).writes_paintSelf p.2.1 p.2.2).within ?_
  obtain ⟨hhands, -⟩ := (mem_placed_iff hlt hid).1 ⟨p.2.2, hp⟩
  exact hhands.within hnarrow

end Tree

/-- Painting a widget of a form into an area changes nothing of the buffer outside of it. Each widget that is
painted with it has an area within this one, and the areas of two children of one widget share no cell. -/
theorem Form.InUse.paint_confined {f : Form} (h : f.InUse) {id : Nat} (hid : id < f.tree.size) (area : Area)
    (focused : Bool) (b : Buffer) :
    SameOutside area b (f.tree.paint id area focused b) ∧
    (∀ n a, f.tree.Hands (fun _ => True) id area n a → a.Within area) ∧
    ∀ n a, (∀ s ∈ f.tree.slots n a, s.area.Within a) ∧
      (f.tree.slots n a).Pairwise fun s s' => s.index ≠ s'.index ∧ s.area.Apart s'.area := by
  have hnarrow : f.tree.Narrow := h.sized.narrow
  refine ⟨?_, fun n a hn => hn.within hnarrow, fun n a => ?_⟩
  · exact (Tree.writes_paint h.attentive.tree.ordered hnarrow hid area focused).sameOutside b
  · obtain ⟨htiles, hnodup⟩ := Tree.tiles_slots hnarrow n a
    exact ⟨htiles.within, (List.pairwise_map.1 hnodup).and htiles.apart⟩

theorem Form.InUse.paint_confined_columns : ∃ f : Form, f.InUse ∧
    ((f.tree.paint f.root ⟨1, 1, 3, 2⟩ true (.blank 6 4)).get? 1 1).map (·.symbol) = some "o" ∧
    SameOutside ⟨1, 1, 3, 2⟩ (.blank 6 4) (f.tree.paint f.root ⟨1, 1, 3, 2⟩ true (.blank 6 4)) ∧
    f.tree.slots 2 ⟨1, 1, 3, 2⟩ = [⟨0, 1, 1, 1, 2⟩, ⟨1, 2, 1, 2, 2⟩] ∧
    (f.tree.slots 2 ⟨1, 1, 3, 2⟩).Pairwise fun s s' => s.index ≠ s'.index ∧ s.area.Apart s'.area := by
  let description := "Col\nTxt one two\nTxt x\nEnd"
  let f := ((Form.parse description {} {}).toOption).getD default
  have hparse : Form.parse description {} {} = .ok f := by decide +kernel
  have h : f.InUse := .parsed hparse
  obtain ⟨hsize, hsymbol, hslots⟩ : f.root < f.tree.size ∧
      ((f.tree.paint f.root ⟨1, 1, 3, 2⟩ true (.blank 6 4)).get? 1 1).map (·.symbol) = some "o" ∧
      f.tree.slots 2 ⟨1, 1, 3, 2⟩ = [⟨0, 1, 1, 1, 2⟩, ⟨1, 2, 1, 2, 2⟩] := by decide +kernel
  obtain ⟨hsame, -, hparts⟩ := h.paint_confined hsize ⟨1, 1, 3, 2⟩ true (.blank 6 4)
  exact ⟨f, h, hsymbol, hsame, hslots, (hparts 2 _).2⟩

end ScreenForm
