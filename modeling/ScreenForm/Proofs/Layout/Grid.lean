import Mathlib.Order.Bounds.Defs
import ScreenForm.Proofs.Layout.Confined
import ScreenForm.Proofs.Layout.Machine
/-!
# The cells of a grid

A row of a grid has as many cells as fit beside each other (`Layout.isGreatest_gridPerRow`).
A child of a row that has any height gets one slot in a grid that has the height
that it asks for, in the row and column that its number says
(`Arrangement.filter_slots_grid`).
-/

namespace ScreenForm

namespace Layout

/-! ## Rows -/

theorem gridCell_eq {width : Nat} (h : 1 ≤ width) (cellWidth : Nat) : gridCell cellWidth width = min (max cellWidth 1) width := by
  rw [gridCell, Nat.max_eq_left h]

/-- No more cells would fit, with the gaps between them. -/
theorem isGreatest_gridPerRow {width : Nat} (h : 1 ≤ width) (cellWidth gap : Nat) :
    IsGreatest {n | n * gridCell cellWidth width + (n - 1) * gap ≤ width} (gridPerRow cellWidth gap width) := by
  have hpos := gridCell_pos cellWidth width
  constructor
  · have hle := cells_le_width h (gridPerRow_pos cellWidth gap width) (Nat.le_refl _)
    rwa [Nat.mul_comm, Nat.mul_comm gap] at hle
  · rintro (_ | n) hn
    · exact Nat.zero_le _
    · refine Nat.le_trans ?_ (Nat.le_max_right ..)
      rw [Nat.le_div_iff_mul_le (by omega)]
      simp only [Set.mem_ofPred_eq, Nat.add_sub_cancel, Nat.succ_mul, Nat.mul_add] at hn ⊢
      omega

section Chunks

variable {α : Type} {k r : Nat} {xs row : List α}

theorem getElem?_chunks (hk : 1 ≤ k) (hr : r * k < xs.length) : (chunks k xs)[r]? = some ((xs.drop (r * k)).take k) := by
  obtain ⟨k, rfl⟩ : ∃ n, k = n + 1 := ⟨k - 1, by omega⟩
  induction r generalizing xs with
  | zero =>
    cases xs with
    | nil => simp at hr
    | cons x rest => rw [chunks, List.getElem?_cons_zero, Nat.zero_mul, List.drop_zero, List.take_succ_cons, Nat.add_sub_cancel]
  | succ r ih =>
    cases xs with
    | nil => simp at hr
    | cons x rest =>
      rw [Nat.succ_mul] at hr
      have hdrop : (x :: rest).drop ((r + 1) * (k + 1)) = (rest.drop k).drop (r * (k + 1)) := by
        rw [List.drop_drop, Nat.succ_mul, ← Nat.add_assoc, List.drop_succ_cons, Nat.add_comm]
      rw [chunks, List.getElem?_cons_succ, Nat.add_sub_cancel, hdrop, ih]
      simp only [List.length_drop, List.length_cons] at hr ⊢
      omega

/-- Each element is in the piece and at the place there that its number says. -/
theorem exists_chunk (hk : 1 ≤ k) {i : Nat} (hi : i < xs.length) :
    ∃ row, (chunks k xs)[i / k]? = some row ∧ row[i % k]? = xs[i]? := by
  have hdiv := Nat.div_add_mod' i k
  refine ⟨_, getElem?_chunks hk (by omega), ?_⟩
  rw [List.getElem?_take_of_lt (Nat.mod_lt i hk), List.getElem?_drop, hdiv]

end Chunks

/-! ## Places -/

/-- The place of a child in a grid that has these rows of heights. -/
def gridSlot (area : Area) (cell columnGap rowGap perRow : Nat) (align : Align) (rows : List (List Nat)) (i : Nat) : Slot :=
  let row := rows.getD (i / perRow) []
  let used := cell * row.length + columnGap * (row.length - 1)
  let above := total ((rows.take (i / perRow)).map rowHeight) + rowGap * (i / perRow)
  ⟨i, ⟨area.x + align.offset area.width used + i % perRow * (cell + columnGap), area.y + above, cell, rowHeight row⟩⟩

theorem total_append (l l' : List Nat) : total (l ++ l') = total l + total l' := by
  simp only [total_eq_sum, List.sum_append]

theorem bottom_gridSlot {area : Area} {cell columnGap rowGap perRow i : Nat} {align : Align} {rows : List (List Nat)}
    (hlast : i / perRow + 1 = rows.length) :
    (gridSlot area cell columnGap rowGap perRow align rows i).area.bottom =
      area.y + (total (rows.map rowHeight) + rowGap * (rows.length - 1)) := by
  have hlt : i / perRow < rows.length := by omega
  have hrows : rows = rows.take (i / perRow) ++ [rows.getD (i / perRow) []] := by
    rw [← List.getElem_eq_getD (h := hlt), List.take_append_getElem, hlast, List.take_length]
  have htotal := congrArg (fun rows => total (rows.map rowHeight)) hrows
  simp only [List.map_append, total_append, List.map_cons, List.map_nil, total_cons, total_nil, Nat.add_zero] at htotal
  rw [← hlast, Nat.add_sub_cancel]
  simp only [gridSlot, Area.bottom]
  omega

/-- Where no two slots have the same number, a number has one slot. -/
theorem filter_index_eq {slots : List Slot} {s : Slot} (hnodup : (slots.map (·.index)).Nodup) (hs : s ∈ slots) :
    slots.filter (·.index = s.index) = [s] := by
  induction slots with
  | nil => cases hs
  | cons q rest ih =>
    rw [List.map_cons, List.nodup_cons] at hnodup
    rcases List.mem_cons.1 hs with rfl | hs
    · have hrest : rest.filter (·.index = s.index) = [] := by
        refine List.filter_eq_nil_iff.2 fun q hq hindex => hnodup.1 ?_
        exact List.mem_map.2 ⟨q, hq, by simpa using hindex⟩
      rw [List.filter_cons_of_pos (by simp), hrest]
    · have hne : q.index ≠ s.index := fun heq => hnodup.1 (List.mem_map.2 ⟨s, hs, heq.symm⟩)
      rw [List.filter_cons_of_neg (by simpa using hne), ih hnodup.2 hs]

end Layout

open Layout

namespace Arrangement

variable {cellWidth columnGap rowGap : Nat} {align : Align} {area : Area} {heights : List Nat}

/-- No slot of a grid is narrower than its cells, and one of a child that has any height is not empty. -/
theorem size_of_mem_slots_grid (hwidth : 1 ≤ area.width) {focus : Nat} {s : Slot}
    (hs : s ∈ (grid cellWidth columnGap rowGap align).slots focus area heights) :
    s.area.width = gridCell cellWidth area.width ∧
      ∀ height, heights[s.index]? = some height → height ≠ 0 → s.area.isEmpty = false := by
  have hcell := gridCell_pos cellWidth area.width
  rw [slots, gridRows_eq] at hs
  obtain ⟨row, hrow, y, hy, hs⟩ := exists_of_mem_inLine hs
  obtain ⟨hpos, hle⟩ := length_of_mem_chunks (gridPerRow_pos ..) hrow
  obtain ⟨hw, hh, p, hp, hi⟩ := mem_gridRow (fits_gridRow (cells_le_width hwidth hpos hle) align) hs
  refine ⟨hw, fun height hheight hne => ?_⟩
  have hget : heights[p.2]? = some p.1 := by
    rw [← List.mem_zipIdx_iff_getElem?, ← flatten_chunks (gridPerRow cellWidth columnGap area.width) heights.zipIdx]
    exact List.mem_flatten.2 ⟨row, hrow, hp⟩
  have hrowHeight := le_rowHeight (List.mem_map_of_mem (f := Prod.fst) hp)
  rw [hi, hget, Option.some.injEq] at hheight
  simp only [Area.isEmpty, Bool.or_eq_false_iff, decide_eq_false_iff_not]
  change y < area.bottom at hy
  change s.area.height = min _ (area.bottom - y) at hh
  omega

/-- The rows with the numbers of the children. -/
theorem getElem?_chunks_zipIdx {perRow r : Nat} (hper : 1 ≤ perRow) {row : List Nat}
    (hrow : (chunks perRow heights)[r]? = some row) :
    (chunks perRow heights.zipIdx)[r]? = some (row.zipIdx (r * perRow)) := by
  have hchunks := chunks_zipIdx hper 0 heights
  rw [Nat.zero_mul] at hchunks
  rw [hchunks, List.getElem?_map, List.getElem?_zipIdx, hrow, Nat.zero_add]
  rfl

section

variable (hwidth : 1 ≤ area.width)
  (hfit : (grid cellWidth columnGap rowGap align).height area.width heights ≤ area.height)
  (hmax : (grid cellWidth columnGap rowGap align).height area.width heights < maxCells)
include hwidth hfit hmax

theorem gridSlot_mem_slots (focus : Nat) {i : Nat} {row : List Nat} (hi : i < heights.length)
    (hrow : (chunks (gridPerRow cellWidth columnGap area.width) heights)[i / gridPerRow cellWidth columnGap area.width]? = some row)
    (hheight : rowHeight row ≠ 0) :
    gridSlot area (gridCell cellWidth area.width) columnGap rowGap (gridPerRow cellWidth columnGap area.width) align
        (chunks (gridPerRow cellWidth columnGap area.width) heights) i ∈
      (grid cellWidth columnGap rowGap align).slots focus area heights := by
  have hper := gridPerRow_pos cellWidth columnGap area.width
  simp only [height] at hfit hmax
  rw [clampCells_eq hmax] at hfit
  obtain ⟨row', hrow', hchild⟩ := exists_chunk hper hi
  obtain rfl : row = row' := Option.some.inj (hrow.symm.trans hrow')
  obtain ⟨hpos, hle⟩ := length_of_mem_chunks hper (List.mem_of_getElem? hrow)
  have hcells := fits_gridRow (cells_le_width hwidth hpos hle) align
  have hdown := fits_gridRows hfit
  have hnumbered := getElem?_chunks_zipIdx hper hrow
  rw [slots, gridRows_eq]
  generalize gridPerRow cellWidth columnGap area.width = perRow at *
  have hsize : rowHeight ((row.zipIdx (i / perRow * perRow)).map Prod.fst) = rowHeight row := by rw [List.zipIdx_map_fst]
  have habove : total (((chunks perRow heights.zipIdx).take (i / perRow)).map fun row => rowHeight (row.map Prod.fst)) =
      total (((chunks perRow heights).take (i / perRow)).map rowHeight) := by
    rw [List.map_take, map_rowHeight_chunks, ← List.map_take]
  have hget : (chunks perRow heights).getD (i / perRow) [] = row := by
    rw [List.getD_eq_getElem?_getD, hrow, Option.getD_some]
  refine place_subset_inLine hdown hnumbered (by rwa [hsize]) ?_
  have hp : (row.zipIdx (i / perRow * perRow))[i % perRow]? = some (heights[i], i) := by
    rw [List.getElem?_zipIdx, hchild, List.getElem?_eq_getElem hi, Option.map_some, Nat.div_add_mod']
  rw [hsize, habove, List.length_zipIdx, gridSlot, hget, ← Nat.add_assoc]
  exact cell_mem_gridRow (by rwa [List.length_zipIdx]) hp

/-- A child of a row that has any height has one slot, which is in its cell. -/
theorem filter_slots_grid (focus : Nat) {i : Nat} {row : List Nat} (hi : i < heights.length)
    (hrow : (chunks (gridPerRow cellWidth columnGap area.width) heights)[i / gridPerRow cellWidth columnGap area.width]? = some row)
    (hheight : rowHeight row ≠ 0) :
    ((grid cellWidth columnGap rowGap align).slots focus area heights).filter (·.index = i) =
      [gridSlot area (gridCell cellWidth area.width) columnGap rowGap (gridPerRow cellWidth columnGap area.width) align
        (chunks (gridPerRow cellWidth columnGap area.width) heights) i] := by
  have hnodup := List.nodup_range.sublist
    (index_slots_sublist (grid cellWidth columnGap rowGap align) focus area heights)
  exact filter_index_eq hnodup (gridSlot_mem_slots hwidth hfit hmax focus hi hrow hheight)

end

end Arrangement

end ScreenForm
