import Mathlib.Algebra.Order.BigOperators.Group.List
import Mathlib.Algebra.Order.Group.Nat
import Mathlib.Data.List.Infix
import ScreenForm.Layout.Arrange
/-!
# Room for the children

A container that has the height that it asks for has room for its children: each
one gets the width that it was measured at and the height that it needs at that
width, unless there is nothing of it to be seen (`Arrangement.seats`).
-/

namespace ScreenForm

/-- A size below the largest one is the one that was asked for. -/
theorem clampCells_eq {n : Nat} (h : clampCells n < maxCells) : clampCells n = n := by
  unfold clampCells at h ⊢
  omega

theorem Align.offset_add_le (align : Align) {used available : Nat} (h : used ≤ available) :
    align.offset available used + used ≤ available := by
  cases align <;> simp only [offset] <;> omega

namespace Layout

/-! ## Sums -/

@[simp] theorem total_nil : total [] = 0 := rfl

@[simp] theorem total_cons (n : Nat) (l : List Nat) : total (n :: l) = n + total l := rfl

theorem le_total_of_mem {n : Nat} {l : List Nat} (h : n ∈ l) : n ≤ total l := by
  show n ≤ l.sum
  exact List.le_sum_of_mem h

theorem total_replicate (n m : Nat) : total (List.replicate n m) = m * n := by
  show (List.replicate n m).sum = m * n
  rw [List.sum_replicate_nat, Nat.mul_comm]

theorem total_take_le (n : Nat) (l : List Nat) : total (l.take n) ≤ total l := by
  show (l.take n).sum ≤ l.sum
  exact (List.take_sublist n l).sum_le_sum fun _ _ => Nat.zero_le _

theorem total_le {bound : Nat} {l : List Nat} (h : ∀ n ∈ l, n ≤ bound) : total l ≤ l.length * bound := by
  show l.sum ≤ l.length • bound
  exact List.sum_le_card_nsmul l bound h

theorem rowHeight_le {bound : Nat} {heights : List Nat} (h : ∀ n ∈ heights, n ≤ bound) : rowHeight heights ≤ bound := by
  rw [rowHeight]
  refine List.foldlRecOn (motive := (· ≤ bound)) heights max (Nat.zero_le bound) fun height hle n hn => ?_
  exact Nat.max_le.2 ⟨hle, h n hn⟩

theorem le_rowHeight {n : Nat} {heights : List Nat} (h : n ∈ heights) : n ≤ rowHeight heights := by
  rw [rowHeight, List.foldl_max]
  exact Nat.le_trans (List.le_max?_getD_of_mem h) (Nat.le_max_right ..)

/-! ## Columns -/

theorem length_giveColumns (available flexible shares given : Nat) (widths : List ColumnWidth) :
    (giveColumns available flexible shares given widths).length = widths.length := by
  induction widths generalizing given with
  | nil => rfl
  | cons width rest ih => simp [giveColumns, ih]

theorem length_columnWidths (widths : List ColumnWidth) (gap width : Nat) :
    (columnWidths widths gap width).length = widths.length :=
  length_giveColumns ..

theorem length_fullWidths (widths : List ColumnWidth) (count : Nat) : (fullWidths widths count).length = count := by
  rw [fullWidths, List.length_map, List.length_range]

/-- What is given out is never more than there is. Up to the last weight, the fixed widths and the shares
that are still to come have their part of it left. -/
theorem add_total_giveColumns_le {available flexible shares given : Nat} {widths : List ColumnWidth}
    (hgiven : given ≤ available)
    (hleft : widths.any isWeight → flexible = 0 ∨
      shares * (given + total (widths.map fixedColumns)) + flexible * total (widths.map share) ≤ shares * available) :
    given + total (giveColumns available flexible shares given widths) ≤ available := by
  induction widths generalizing given with
  | nil => simpa [giveColumns] using hgiven
  | cons width rest ih =>
    simp only [List.any_cons, List.map_cons, total_cons, Bool.or_eq_true] at hleft
    cases width with
    | fixed columns =>
      rw [giveColumns, total_cons, ← Nat.add_assoc]
      simp only [isWeight, fixedColumns, share, Bool.false_eq_true, false_or, Nat.zero_add] at hleft ⊢
      refine ih (by omega) fun hrest => (hleft hrest).imp_right fun h => Nat.le_trans ?_ h
      exact Nat.add_le_add_right (Nat.mul_le_mul_left shares (by omega)) _
    | weight n =>
      rw [giveColumns, total_cons, ← Nat.add_assoc]
      simp only [isWeight, fixedColumns, share, true_or, Nat.zero_add, forall_const] at hleft ⊢
      split
      · -- Rounding down leaves no less for the rest.
        have hshare : shares * (flexible * n / shares) ≤ flexible * n := Nat.mul_div_le ..
        refine ih ?_ fun _ => hleft.imp_right fun h => ?_
        · rcases hleft with rfl | h
          · simpa using hgiven
          · rcases Nat.eq_zero_or_pos shares with rfl | hpos
            · simpa using hgiven
            · refine Nat.le_of_mul_le_mul_left ?_ hpos
              simp only [Nat.mul_add] at h ⊢
              omega
        · simp only [Nat.mul_add] at h ⊢
          omega
      · next hlast => exact ih (by omega) fun hrest => absurd hrest hlast

theorem total_columnWidths_le (widths : List ColumnWidth) (gap width : Nat) :
    total (columnWidths widths gap width) ≤ availableColumns width gap widths.length := by
  rw [columnWidths, ← Nat.zero_add (total _)]
  refine add_total_giveColumns_le (Nat.zero_le _) fun _ => ?_
  by_cases h : total (widths.map fixedColumns) ≤ availableColumns width gap widths.length
  · refine .inr (Nat.le_of_eq ?_)
    rw [Nat.zero_add, Nat.mul_comm (_ - _), ← Nat.mul_add, Nat.add_sub_cancel' h]
  · exact .inl (by omega)

/-! ## Pieces that fit -/

/-- From `start` on, the pieces with their gaps end at `stop` at the latest, or there is nothing of them. -/
def Fits (gap start stop : Nat) (pieces : List Nat) : Prop :=
  (∀ n ∈ pieces, n = 0) ∨ start + total pieces + gap * (pieces.length - 1) ≤ stop

variable {gap start stop n : Nat} {rest pieces : List Nat}

/-- There is room for the first piece, and for the others after it. -/
theorem Fits.cons (h : Fits gap start stop (n :: rest)) :
    min n (stop - start) = n ∧ Fits gap (start + n + gap) stop rest := by
  rcases h with h | h
  · rw [List.forall_mem_cons] at h
    exact ⟨by rw [h.1, Nat.zero_min], .inl h.2⟩
  · rw [total_cons] at h
    refine ⟨by omega, ?_⟩
    cases rest with
    | nil => exact .inl nofun
    | cons m rest =>
      -- The gap before the others is the one that they have less.
      simp only [List.length_cons, Nat.add_sub_cancel, Nat.mul_succ] at h
      refine .inr ?_
      simp only [List.length_cons, Nat.add_sub_cancel]
      omega

/-- Where there is something to come, there is still room. -/
theorem Fits.lt (h : Fits gap start stop pieces) (hn : n ∈ pieces) (hpos : n ≠ 0) : start < stop := by
  rcases h with h | h
  · exact absurd (h n hn) hpos
  · have := le_total_of_mem hn
    omega

theorem fits_columnWidths (widths : List ColumnWidth) (gap x width : Nat) :
    Fits gap x (x + width) (columnWidths widths gap width) := by
  have htotal := total_columnWidths_le widths gap width
  unfold availableColumns at htotal
  rw [Fits, length_columnWidths]
  by_cases h : gap * (widths.length - 1) ≤ width
  · exact .inr (by omega)
  · -- There is not even room for the gaps.
    exact .inl fun n hn => by have := le_total_of_mem hn; omega

/-! ## Slots -/

section InLine

variable {α : Type} {size : α → Nat} {place : α → Nat → Nat → List Slot} {p : α} {l : List α} {s : Slot}

/-- What comes of pieces that are placed one after the other from `start` on, as long as there is room. -/
def inLine (size : α → Nat) (place : α → Nat → Nat → List Slot) (gap stop start : Nat) : List α → List Slot
  | [] => []
  | p :: rest =>
    if stop ≤ start then []
    else
      let cells := min (size p) (stop - start)
      place p start cells ++ inLine size place gap stop (start + cells + gap) rest

/-- What is placed are pieces, as far as there is room for them. -/
theorem exists_of_mem_inLine (hs : s ∈ inLine size place gap stop start l) :
    ∃ p ∈ l, ∃ k < stop, s ∈ place p k (min (size p) (stop - k)) := by
  induction l generalizing start with
  | nil => cases hs
  | cons q rest ih =>
    rw [inLine] at hs
    split at hs
    · cases hs
    · next hroom =>
      rcases List.mem_append.1 hs with hs | hs
      · exact ⟨q, List.mem_cons_self, start, Nat.lt_of_not_le hroom, hs⟩
      · obtain ⟨p, hp, hplace⟩ := ih hs
        exact ⟨p, List.mem_cons_of_mem _ hp, hplace⟩

/-- Pieces that fit are placed in full. -/
theorem mem_inLine (hfit : Fits gap start stop (l.map size)) (hs : s ∈ inLine size place gap stop start l) :
    ∃ p ∈ l, ∃ k, s ∈ place p k (size p) := by
  induction l generalizing start with
  | nil => cases hs
  | cons q rest ih =>
    obtain ⟨hmin, hrest⟩ := hfit.cons
    rw [inLine] at hs
    split at hs
    · cases hs
    · rw [hmin] at hs
      rcases List.mem_append.1 hs with hs | hs
      · exact ⟨q, List.mem_cons_self, start, hs⟩
      · obtain ⟨p, hp, k, hs⟩ := ih hrest hs
        exact ⟨p, List.mem_cons_of_mem _ hp, k, hs⟩

/-- Each of them is placed after those before it and their gaps, unless there is nothing of it. -/
theorem place_subset_inLine (hfit : Fits gap start stop (l.map size)) {i : Nat} (hp : l[i]? = some p) (hpos : size p ≠ 0) :
    place p (start + total ((l.take i).map size) + gap * i) (size p) ⊆ inLine size place gap stop start l := by
  induction l generalizing start i with
  | nil => cases hp
  | cons q rest ih =>
    obtain ⟨hmin, hrest⟩ := hfit.cons
    rw [inLine, if_neg (Nat.not_le.2 (hfit.lt (List.mem_map_of_mem (List.mem_of_getElem? hp)) hpos)), hmin]
    cases i with
    | zero =>
      cases hp
      exact List.subset_append_left ..
    | succ i =>
      have hstart : start + size q + gap + total ((rest.take i).map size) + gap * i =
          start + total (((q :: rest).take (i + 1)).map size) + gap * (i + 1) := by
        rw [List.take_succ_cons, List.map_cons, total_cons, Nat.mul_succ]
        omega
      rw [← hstart]
      exact List.subset_append_of_subset_right _ (ih hrest hp)

theorem subset_inLine (hfit : Fits gap start stop (l.map size)) (hp : p ∈ l) (hpos : size p ≠ 0) :
    ∃ k, place p k (size p) ⊆ inLine size place gap stop start l := by
  obtain ⟨i, hi⟩ := List.mem_iff_getElem?.1 hp
  exact ⟨_, place_subset_inLine hfit hi hpos⟩

/-- What is placed are the first ones. -/
theorem index_inLine_initial (indices : α → List Nat) (h : ∀ p k n, (place p k n).map (·.index) = indices p)
    (l : List α) (start : Nat) : (inLine size place gap stop start l).map (·.index) <+: l.flatMap indices := by
  induction l generalizing start with
  | nil => exact List.prefix_rfl
  | cons p rest ih =>
    rw [inLine]
    split
    · exact List.nil_prefix
    · rw [List.map_append, h, List.flatMap_cons]
      exact (List.prefix_append_right_inj _).2 (ih _)

end InLine

variable {a : Area} {x y : Nat} {l : List (Nat × Nat)} {p : Nat × Nat} {s : Slot}

theorem stack_eq (a : Area) (y : Nat) (l : List (Nat × Nat)) : stack a y l =
    inLine Prod.fst (fun p y height => [⟨p.2, ⟨a.x, y, a.width, height⟩⟩]) 0 a.bottom y l := by
  induction l generalizing y with
  | nil => rfl
  | cons p rest ih => simp only [stack, inLine, ih, List.singleton_append, Nat.add_zero]

theorem across_eq (a : Area) (gap x : Nat) (l : List (Nat × Nat)) : across a gap x l =
    inLine Prod.fst (fun p x width => [⟨p.2, ⟨x, a.y, width, a.height⟩⟩]) gap a.right x l := by
  induction l generalizing x with
  | nil => rfl
  | cons p rest ih => simp only [across, inLine, ih, List.singleton_append]

/-- Those that are there are the first ones. -/
theorem index_stack_initial (a : Area) (y : Nat) (l : List (Nat × Nat)) :
    (stack a y l).map (·.index) <+: l.map Prod.snd := by
  rw [stack_eq, List.map_eq_flatMap (f := Prod.snd)]
  refine index_inLine_initial (fun p => [p.2]) (fun _ _ _ => ?_) l y
  rfl

/-! ## Grids -/

section Chunks

variable {α β : Type} {k : Nat} {xs row : List α}

theorem flatten_chunks (k : Nat) (xs : List α) : (chunks k xs).flatten = xs := by
  fun_induction chunks k xs with
  | case1 => rfl
  | case2 x rest ih => rw [List.flatten_cons, ih, List.cons_append, List.take_append_drop]

theorem length_of_mem_chunks (hk : 1 ≤ k) (h : row ∈ chunks k xs) : 1 ≤ row.length ∧ row.length ≤ k := by
  fun_induction chunks k xs with
  | case1 => cases h
  | case2 x rest ih =>
    rcases List.mem_cons.1 h with rfl | h
    · rw [List.length_cons, List.length_take]
      omega
    · exact ih h

theorem chunks_map (f : α → β) (k : Nat) (xs : List α) : chunks k (xs.map f) = (chunks k xs).map (·.map f) := by
  fun_induction chunks k xs with
  | case1 => rw [List.map_nil, chunks, List.map_nil]
  | case2 x rest ih => rw [List.map_cons, chunks, ← List.map_drop, ih, List.map_cons, List.map_cons, List.map_take]

end Chunks

/-- A row of a grid has no more cells than there is room for. -/
theorem cells_le_width {cellWidth width count : Nat} (hw : 1 ≤ width) (hpos : 1 ≤ count)
    (hle : count ≤ gridPerRow cellWidth gap width) :
    gridCell cellWidth width * count + gap * (count - 1) ≤ width := by
  have hcell : gridCell cellWidth width ≤ width := by
    unfold gridCell
    omega
  obtain ⟨k, rfl⟩ : ∃ k, count = k + 1 := ⟨count - 1, by omega⟩
  rw [Nat.add_sub_cancel]
  rcases Nat.eq_zero_or_pos k with rfl | hk
  · simpa using hcell
  · have hle' : k + 1 ≤ (width + gap) / (gridCell cellWidth width + gap) := by
      unfold gridPerRow at hle
      omega
    have hmul := Nat.mul_le_of_le_div _ _ _ hle'
    simp only [Nat.mul_add, Nat.mul_one, Nat.add_mul, Nat.one_mul, Nat.mul_comm k] at hmul ⊢
    omega

variable {cell height : Nat}

theorem mem_gridRow (hfit : Fits gap x a.right (List.replicate l.length cell)) (hs : s ∈ gridRow a y cell gap height x l) :
    s.area.width = cell ∧ s.area.height = height ∧ ∃ p ∈ l, s.index = p.2 := by
  induction l generalizing x with
  | nil => cases hs
  | cons q rest ih =>
    rw [List.length_cons, List.replicate_succ] at hfit
    obtain ⟨hmin, hrest⟩ := hfit.cons
    rw [gridRow, hmin] at hs
    rcases List.mem_cons.1 hs with rfl | hs
    · exact ⟨rfl, rfl, q, List.mem_cons_self, rfl⟩
    · obtain ⟨hw, hh, p, hp, hi⟩ := ih hrest hs
      exact ⟨hw, hh, p, List.mem_cons_of_mem _ hp, hi⟩

/-- Each cell is to the right of those before it and their gaps. -/
theorem cell_mem_gridRow (hfit : Fits gap x a.right (List.replicate l.length cell)) {j : Nat} (hp : l[j]? = some p) :
    (⟨p.2, ⟨x + j * (cell + gap), y, cell, height⟩⟩ : Slot) ∈ gridRow a y cell gap height x l := by
  induction l generalizing x j with
  | nil => cases hp
  | cons q rest ih =>
    rw [List.length_cons, List.replicate_succ] at hfit
    obtain ⟨hmin, hrest⟩ := hfit.cons
    rw [gridRow, hmin]
    cases j with
    | zero =>
      cases hp
      rw [Nat.zero_mul, Nat.add_zero]
      exact List.mem_cons_self
    | succ j =>
      have hx : x + cell + gap + j * (cell + gap) = x + (j + 1) * (cell + gap) := by
        rw [Nat.succ_mul]
        omega
      rw [← hx]
      exact List.mem_cons_of_mem _ (ih hrest hp)

theorem index_gridRow (a : Area) (y cell gap height x : Nat) (l : List (Nat × Nat)) :
    (gridRow a y cell gap height x l).map (·.index) = l.map Prod.snd := by
  induction l generalizing x with
  | nil => rfl
  | cons p rest ih => rw [gridRow, List.map_cons, List.map_cons, ih]

theorem exists_mem_gridRow (hp : p ∈ l) : ∃ s ∈ gridRow a y cell gap height x l, s.index = p.2 := by
  have hindex : p.2 ∈ (gridRow a y cell gap height x l).map (·.index) := by
    rw [index_gridRow]
    exact List.mem_map_of_mem hp
  exact List.mem_map.1 hindex

theorem gridRows_eq (a : Area) (cell gap rowGap : Nat) (align : Align) (y : Nat) (rows : List (List (Nat × Nat))) :
    gridRows a cell gap rowGap align y rows =
      inLine (fun row => rowHeight (row.map Prod.fst)) (fun row y height => gridRow a y cell gap height
        (a.x + align.offset a.width (cell * row.length + gap * (row.length - 1))) row) rowGap a.bottom y rows := by
  induction rows generalizing y with
  | nil => rfl
  | cons row rest ih => simp only [gridRows, inLine, ih]

/-- Wherever a row is aligned, its cells fit. -/
theorem fits_gridRow {count : Nat} (h : cell * count + gap * (count - 1) ≤ a.width) (align : Align) :
    Fits gap (a.x + align.offset a.width (cell * count + gap * (count - 1))) a.right (List.replicate count cell) := by
  have hoffset := align.offset_add_le h
  rw [Fits, total_replicate, List.length_replicate]
  exact .inr (by rw [Area.right]; omega)

/-! ## Lists -/

/-- Nothing is scrolled away where there is room for all. -/
theorem firstShown_eq_zero {room : Nat} {heights : List Nat} (h : total heights ≤ room) (focus : Nat) :
    firstShown room heights focus = 0 := by
  have hbottom : total (heights.take (focus + 1)) ≤ room := Nat.le_trans (total_take_le ..) h
  rw [firstShown]
  cases focus with
  | zero => cases heights <;> rfl
  | succ focus =>
    cases heights with
    | nil => rfl
    | cons height rest => rw [scrolledAway, if_pos hbottom]

end Layout

open Layout

namespace Arrangement

/-- Whether it is a list with a height of its own, which may be lower than what is in it. -/
def scrolls : Arrangement → Bool
  | list (some _) _ => true
  | _ => false

/-- Each child that has a slot gets the width that it is measured at and the height that it needs there,
and one without a slot needs no row or has no width. -/
structure Seats (a : Arrangement) (area : Area) (heights : List Nat) (slots : List Slot) : Prop where
  fits : ∀ s ∈ slots, ∃ height ≤ s.area.height, heights[s.index]? = some height ∧
    (a.childWidths heights.length area.width)[s.index]? = some s.area.width
  seen : ∀ i height width, heights[i]? = some height → (a.childWidths heights.length area.width)[i]? = some width →
    height ≠ 0 → width ≠ 0 → ∃ s ∈ slots, s.index = i

variable {a : Arrangement} {area : Area} {heights : List Nat}

theorem seats_stack {inner : Area} (hchild : a.childWidths heights.length area.width = List.replicate heights.length inner.width)
    (hfit : total heights ≤ inner.height) : a.Seats area heights (stack inner inner.y heights.zipIdx) := by
  have hfits : Fits 0 inner.y inner.bottom (heights.zipIdx.map Prod.fst) := by
    rw [List.zipIdx_map_fst]
    exact .inr (by rw [Area.bottom]; omega)
  rw [stack_eq]
  constructor
  · intro s hs
    obtain ⟨p, hp, y, hs⟩ := mem_inLine hfits hs
    obtain rfl := List.mem_singleton.1 hs
    have hget := List.mem_zipIdx_iff_getElem?.1 hp
    have hlt := (List.getElem?_eq_some_iff.1 hget).1
    exact ⟨p.1, Nat.le_refl _, hget, by rw [hchild, List.getElem?_replicate_of_lt hlt]⟩
  · intro i height width hi _ hpos _
    obtain ⟨y, hsub⟩ := subset_inLine hfits (p := (height, i)) (List.mem_zipIdx_iff_getElem?.2 hi) hpos
    exact ⟨_, hsub (List.mem_singleton_self _), rfl⟩

theorem seats_across {widths : List ColumnWidth} {gap : Nat} (hfit : rowHeight heights ≤ area.height) :
    (columns widths gap).Seats area heights
      (across area gap area.x (columnWidths (fullWidths widths heights.length) gap area.width).zipIdx) := by
  have hfits : Fits gap area.x area.right
      ((columnWidths (fullWidths widths heights.length) gap area.width).zipIdx.map Prod.fst) := by
    rw [List.zipIdx_map_fst]
    exact fits_columnWidths ..
  have hlength : (columnWidths (fullWidths widths heights.length) gap area.width).length = heights.length := by
    rw [length_columnWidths, length_fullWidths]
  rw [across_eq]
  constructor
  · intro s hs
    obtain ⟨p, hp, x, hs⟩ := mem_inLine hfits hs
    obtain rfl := List.mem_singleton.1 hs
    have hget := List.mem_zipIdx_iff_getElem?.1 hp
    have hlt : p.2 < heights.length := hlength ▸ (List.getElem?_eq_some_iff.1 hget).1
    exact ⟨heights[p.2], Nat.le_trans (le_rowHeight (List.getElem_mem hlt)) hfit, List.getElem?_eq_getElem hlt, hget⟩
  · intro i height width _ hi _ hpos
    obtain ⟨x, hsub⟩ := subset_inLine hfits (p := (width, i)) (List.mem_zipIdx_iff_getElem?.2 hi) hpos
    exact ⟨_, hsub (List.mem_singleton_self _), rfl⟩

/-- The rows of numbered heights are as high as those of the heights. -/
theorem map_rowHeight_chunks (perRow : Nat) (heights : List Nat) :
    (chunks perRow heights.zipIdx).map (fun row => rowHeight (row.map Prod.fst)) =
      (chunks perRow heights).map rowHeight := by
  have hchunks := chunks_map Prod.fst perRow heights.zipIdx
  rw [List.zipIdx_map_fst] at hchunks
  rw [hchunks, List.map_map]
  rfl

/-- The rows of a grid fit the height that it asks for. -/
theorem fits_gridRows {perRow rowGap : Nat} (hfit : total ((chunks perRow heights).map rowHeight) +
      rowGap * ((chunks perRow heights).length - 1) ≤ area.height) :
    Fits rowGap area.y area.bottom ((chunks perRow heights.zipIdx).map fun row => rowHeight (row.map Prod.fst)) := by
  rw [map_rowHeight_chunks, Fits, List.length_map]
  exact .inr (by rw [Area.bottom]; omega)

theorem seats_gridRows {cellWidth gap rowGap : Nat} {align : Align} (hw : 1 ≤ area.width)
    (hfit : total ((chunks (gridPerRow cellWidth gap area.width) heights).map rowHeight) +
      rowGap * ((chunks (gridPerRow cellWidth gap area.width) heights).length - 1) ≤ area.height) :
    (grid cellWidth gap rowGap align).Seats area heights
      (gridRows area (gridCell cellWidth area.width) gap rowGap align area.y
        (chunks (gridPerRow cellWidth gap area.width) heights.zipIdx)) := by
  have hdown := fits_gridRows hfit
  have hmem {p : Nat × Nat} : (∃ row ∈ chunks (gridPerRow cellWidth gap area.width) heights.zipIdx, p ∈ row) ↔
      heights[p.2]? = some p.1 := by
    rw [← List.mem_zipIdx_iff_getElem?, ← List.mem_flatten, flatten_chunks]
  rw [gridRows_eq]
  constructor
  · intro s hs
    obtain ⟨row, hrow, y, hs⟩ := mem_inLine hdown hs
    obtain ⟨hpos, hle⟩ := length_of_mem_chunks (Nat.le_max_left ..) hrow
    obtain ⟨hwidth, hheight, p, hp, hi⟩ := mem_gridRow (fits_gridRow (cells_le_width hw hpos hle) align) hs
    have hget := hmem.1 ⟨row, hrow, hp⟩
    have hlt := (List.getElem?_eq_some_iff.1 hget).1
    refine ⟨p.1, hheight ▸ le_rowHeight (List.mem_map_of_mem hp), hi ▸ hget, ?_⟩
    rw [childWidths, hi, List.getElem?_replicate_of_lt hlt, hwidth]
  · intro i height width hi _ hpos _
    obtain ⟨row, hrow, hp⟩ := (hmem (p := (height, i))).2 hi
    have hrowHeight : rowHeight (row.map Prod.fst) ≠ 0 := by
      have := le_rowHeight (List.mem_map_of_mem (f := Prod.fst) hp)
      omega
    obtain ⟨y, hsub⟩ := subset_inLine hdown hrow hrowHeight
    obtain ⟨s, hs, hi⟩ := exists_mem_gridRow hp
    exact ⟨s, hsub hs, hi⟩

/-- A container is at least as high as each of its children, unless it scrolls them. -/
theorem le_height {width n : Nat} (ha : a.scrolls = false) (hmax : a.height width heights < maxCells) (hn : n ∈ heights) :
    n ≤ a.height width heights := by
  cases a with
  | pile =>
    simp only [height] at hmax ⊢
    rw [clampCells_eq hmax]
    exact le_total_of_mem hn
  | columns widths gap => exact le_rowHeight hn
  | grid cellWidth columnGap rowGap align =>
    simp only [height] at hmax ⊢
    rw [clampCells_eq hmax]
    rw [← flatten_chunks (gridPerRow cellWidth columnGap width) heights] at hn
    obtain ⟨row, hrow, hn⟩ := List.mem_flatten.1 hn
    have hheight : rowHeight row ≤ total ((chunks (gridPerRow cellWidth columnGap width) heights).map rowHeight) :=
      le_total_of_mem (List.mem_map_of_mem hrow)
    have := le_rowHeight hn
    omega
  | list h border =>
    cases h with
    | some h => cases ha
    | none =>
      simp only [height, Option.getD_none] at hmax ⊢
      rw [clampCells_eq hmax]
      rw [clampCells_eq hmax] at hmax
      rw [clampCells_eq (by omega)]
      have := le_total_of_mem hn
      omega

/-- The area of a list without its border has room for all children. -/
theorem total_le_innerArea {border : Bool} (hfit : (list none border).height area.width heights ≤ area.height)
    (hmax : (list none border).height area.width heights < maxCells) :
    total heights ≤ ((list none border).innerArea area).height := by
  simp only [height, Option.getD_none] at hfit hmax
  rw [clampCells_eq hmax] at hfit hmax
  have hcontent : clampCells (total heights) < maxCells := by omega
  rw [clampCells_eq hcontent] at hfit
  cases border with
  | false => exact hfit
  | true =>
    rw [borderCells, if_pos rfl] at hfit
    simp only [innerArea, Area.inner]
    omega

theorem slots_list {border : Bool} (hfit : (list none border).height area.width heights ≤ area.height)
    (hmax : (list none border).height area.width heights < maxCells) (focus : Nat) :
    (list none border).slots focus area heights =
      stack ((list none border).innerArea area) ((list none border).innerArea area).y heights.zipIdx := by
  simp only [slots, firstShown_eq_zero (total_le_innerArea hfit hmax), ite_self, List.drop_zero]

theorem seats (hw : 1 ≤ area.width) (ha : a.scrolls = false) (hfit : a.height area.width heights ≤ area.height)
    (hmax : a.height area.width heights < maxCells) (focus : Nat) :
    a.Seats area heights (a.slots focus area heights) := by
  cases a with
  | pile =>
    simp only [height] at hfit hmax
    exact seats_stack rfl (clampCells_eq hmax ▸ hfit)
  | columns widths gap => exact seats_across hfit
  | grid cellWidth columnGap rowGap align =>
    simp only [height] at hfit hmax
    exact seats_gridRows hw (clampCells_eq hmax ▸ hfit)
  | list height border =>
    cases height with
    | some height => cases ha
    | none =>
      rw [slots_list hfit hmax]
      refine seats_stack ?_ (total_le_innerArea hfit hmax)
      cases border <;> rfl

/-- The children of a list that are there are the first ones. -/
theorem index_slots_list {border : Bool} (hfit : (list none border).height area.width heights ≤ area.height)
    (hmax : (list none border).height area.width heights < maxCells) (focus : Nat) :
    ((list none border).slots focus area heights).map (·.index) <+: List.range heights.length := by
  have hprefix := index_stack_initial ((list none border).innerArea area) ((list none border).innerArea area).y heights.zipIdx
  rwa [← slots_list hfit hmax focus, List.zipIdx_map_snd, List.range_eq_range'.symm] at hprefix

end Arrangement

end ScreenForm
